import Kaigi.Hub.Handlers
import Kaigi.Interleaving.Machine

/-!
# Connections

The tasks of the connections of one room as a machine: `handle_conn` with its
receive loop, the periodic billing task, and the writer that empties the
outgoing channel. Moves are chosen by the scheduler and by the network.
-/

set_option autoImplicit false

namespace Kaigi.Hub

open Collections Wire Interleaving

/-- What `stream.next().await` can yield. -/
inductive WsEvent where
  | binary (chunk : List UInt8)
  | ping (payload : List UInt8)
  | ignored
  | close
  | endOfStream
  | error

inductive Phase where
  /-- Waiting for the next WebSocket message. -/
  | receiving (decoder : FrameDecoder)
  /-- About to call `decoder.try_next()`. -/
  | draining (decoder : FrameDecoder)
  | handling (decoder : FrameDecoder) (handler : Handler Unit)
  /-- The receive loop is over: `drop(tx); writer.await`. -/
  | ended
  | disconnecting (handler : Handler Unit)
  | returned (result : Except HubError Unit)

inductive BillingPhase where
  | sleeping
  | checking (handler : Handler Bool)
  | returned

structure Connection where
  phase : Phase
  billing : BillingPhase

structure System where
  shared : HubRoom
  connections : ConnId → Option Connection

inductive Task where
  | connection
  | billing
  | writer
  | environment
deriving DecidableEq

/-- One performed operation, with the shared state it found. -/
structure Event where
  connId : ConnId
  task : Task
  op : Operation
  before : HubRoom

def Event.after (hub : HubState) (event : Event) : HubRoom :=
  event.op.apply hub event.connId event.before

inductive Move where
  | connect (connId : ConnId) (connectedAtMs : Nat)
  | receive (connId : ConnId) (event : WsEvent)
  | advance (connId : ConnId) (clock : Nat)
  | writerEnded (connId : ConnId)
  | billingTick (connId : ConnId)
  | advanceBilling (connId : ConnId) (clock : Nat)
  | deliver (connId : ConnId)
  | writerStopped (connId : ConnId)
  | reorder (participants coHosts : List ConnId)

namespace System

def initial : System where
  shared := { room := none, channels := fun _ => ⟨[], true⟩ }
  connections := fun _ => none

def setConnection (system : System) (connId : ConnId) (connection : Connection) : System :=
  { system with
    connections := fun id => if id = connId then some connection else system.connections id }

def setPhase (system : System) (connId : ConnId) (connection : Connection) (phase : Phase) :
    System :=
  system.setConnection connId { connection with phase := phase }

/-- Perform the operation of an event, if there is one. -/
def perform (hub : HubState) (system : System) (event : Option Event) : System :=
  match event with
  | none => system
  | some event => { system with shared := event.op.apply hub event.connId system.shared }

/-- The phase after a WebSocket event of a receiving connection. -/
def received (decoder : FrameDecoder) : WsEvent → Phase
  | .binary chunk => .draining (decoder.push chunk)
  | .ping _ | .ignored => .receiving decoder
  | .close | .endOfStream => .ended
  | .error => .returned (.error .wsRecv)

/-- The next phase of a running connection; `none` when it waits for something
else than the processor. -/
def advanced (hub : HubState) (connId : ConnId) (clock : Nat) (shared : HubRoom) :
    Phase → Option Phase
  | .draining decoder =>
      match decoder.tryNext hub.norito with
      | (.error error, _) => some (.returned (.error (.wire error)))
      | (.ok none, decoder) => some (.receiving decoder)
      | (.ok (some frame), decoder) => some (.handling decoder (handleFrame hub connId frame))
  | .handling decoder handler =>
      match handler with
      | .done () => some (.draining decoder)
      | .fail error => some (.returned (.error error))
      | handler => some (.handling decoder (handler.resume clock shared))
  | .disconnecting handler =>
      match handler with
      | .done () => some (.returned (.ok ()))
      | .fail error => some (.returned (.error error))
      | handler => some (.disconnecting (handler.resume clock shared))
  | .receiving _ | .ended | .returned _ => none

def billingAdvanced (clock : Nat) (shared : HubRoom) : BillingPhase → Option BillingPhase
  | .checking handler =>
      match handler with
      | .done true => some .sleeping
      | .done false | .fail _ => some .returned
      | handler => some (.checking (handler.resume clock shared))
  | .sleeping | .returned => none

/-- The operation that the handler of a phase performs next. -/
def phaseOperation? : Phase → Option Operation
  | .handling _ handler | .disconnecting handler => handler.operation?
  | _ => none

def billingOperation? : BillingPhase → Option Operation
  | .checking handler => handler.operation?
  | _ => none

/-- The event a move leaves behind when it performs an operation. -/
def event (system : System) : Move → Option Event
  | .connect connId connectedAtMs =>
      some ⟨connId, .connection, .connect connectedAtMs, system.shared⟩
  | .receive connId (.ping payload) =>
      some ⟨connId, .connection, .trySend connId (.pong payload), system.shared⟩
  | .receive _ _ | .writerEnded _ | .billingTick _ => none
  | .advance connId _ =>
      ((system.connections connId).bind (phaseOperation? ·.phase)).map fun op =>
        ⟨connId, .connection, op, system.shared⟩
  | .advanceBilling connId _ =>
      ((system.connections connId).bind (billingOperation? ·.billing)).map fun op =>
        ⟨connId, .billing, op, system.shared⟩
  | .deliver connId => some ⟨connId, .writer, .takeMessage, system.shared⟩
  | .writerStopped connId => some ⟨connId, .writer, .closeChannel, system.shared⟩
  | .reorder participants coHosts =>
      some ⟨0, .environment, .reorder participants coHosts, system.shared⟩

/-- The connections after a move, when the move is possible. -/
def moved (hub : HubState) (system : System) : Move → Option System
  | .connect connId _ =>
      -- `fetch_add` hands out every id once.
      match system.connections connId with
      | some _ => none
      | none => some (system.setConnection connId ⟨.receiving .new, .sleeping⟩)
  | .receive connId event =>
      match system.connections connId with
      | some connection =>
        match connection.phase with
        | .receiving decoder => some (system.setPhase connId connection (received decoder event))
        | _ => none
      | none => none
  | .advance connId clock =>
      match system.connections connId with
      | some connection =>
        (advanced hub connId clock system.shared connection.phase).map
          (system.setPhase connId connection)
      | none => none
  | .writerEnded connId =>
      -- `writer.await` returns when the writer task has dropped the receiving half.
      match system.connections connId with
      | some connection =>
        match connection.phase with
        | .ended =>
          if (system.shared.channels connId).closed then
            some (system.setPhase connId connection (.disconnecting (handleDisconnect hub connId)))
          else none
        | _ => none
      | none => none
  | .billingTick connId =>
      match system.connections connId with
      | some connection =>
        match connection.billing with
        | .sleeping =>
          some (system.setConnection connId
            { connection with billing := .checking (enforceBilling hub connId) })
        | _ => none
      | none => none
  | .advanceBilling connId clock =>
      match system.connections connId with
      | some connection =>
        (billingAdvanced clock system.shared connection.billing).map fun billing =>
          system.setConnection connId { connection with billing := billing }
      | none => none
  -- The writer stops when a send fails. The model lets it stop at any time.
  | .deliver connId | .writerStopped connId =>
      match system.connections connId with
      | some _ => some system
      | none => none
  | .reorder _ _ => some system

def step (hub : HubState) (system : System) (move : Move) : Option System :=
  (system.moved hub move).map fun next => next.perform hub (system.event move)

end System

/-- What a move does to the connections. -/
inductive Moved (hub : HubState) (system : System) : Move → System → Prop where
  | connected {connId : ConnId} {connectedAtMs : Nat} : system.connections connId = none →
      Moved hub system (.connect connId connectedAtMs)
        (system.setConnection connId ⟨.receiving .new, .sleeping⟩)
  | received {connId : ConnId} {event : WsEvent} {connection : Connection}
      {decoder : FrameDecoder} : system.connections connId = some connection →
      connection.phase = .receiving decoder →
      Moved hub system (.receive connId event)
        (system.setPhase connId connection (System.received decoder event))
  | advanced {connId : ConnId} {clock : Nat} {connection : Connection} {phase : Phase} :
      system.connections connId = some connection →
      System.advanced hub connId clock system.shared connection.phase = some phase →
      Moved hub system (.advance connId clock) (system.setPhase connId connection phase)
  | writerEnded {connId : ConnId} {connection : Connection} :
      system.connections connId = some connection → connection.phase = .ended →
      (system.shared.channels connId).closed = true →
      Moved hub system (.writerEnded connId)
        (system.setPhase connId connection (.disconnecting (handleDisconnect hub connId)))
  | ticked {connId : ConnId} {connection : Connection} :
      system.connections connId = some connection → connection.billing = .sleeping →
      Moved hub system (.billingTick connId) (system.setConnection connId
        { connection with billing := .checking (enforceBilling hub connId) })
  | billed {connId : ConnId} {clock : Nat} {connection : Connection} {billing : BillingPhase} :
      system.connections connId = some connection →
      System.billingAdvanced clock system.shared connection.billing = some billing →
      Moved hub system (.advanceBilling connId clock)
        (system.setConnection connId { connection with billing := billing })
  | delivered {connId : ConnId} {connection : Connection} :
      system.connections connId = some connection → Moved hub system (.deliver connId) system
  | writerStopped {connId : ConnId} {connection : Connection} :
      system.connections connId = some connection →
      Moved hub system (.writerStopped connId) system
  | reordered {participants coHosts : List ConnId} :
      Moved hub system (.reorder participants coHosts) system

theorem System.moved_cases {hub : HubState} {system moved : System} {move : Move}
    (possible : system.moved hub move = some moved) : Moved hub system move moved := by
  cases move with
  | connect connId connectedAtMs =>
      simp only [System.moved] at possible
      split at possible
      · cases possible
      · next fresh =>
          cases possible
          exact .connected fresh
  | receive connId event =>
      simp only [System.moved] at possible
      split at possible
      · next found =>
          split at possible
          · next receiving =>
              cases possible
              exact .received found receiving
          · cases possible
      · cases possible
  | advance connId clock =>
      simp only [System.moved] at possible
      split at possible
      · next found =>
          obtain ⟨phase, advanced, rfl⟩ := Option.map_eq_some_iff.mp possible
          exact .advanced found advanced
      · cases possible
  | writerEnded connId =>
      simp only [System.moved] at possible
      split at possible
      · next found =>
          split at possible
          · next ended =>
              split at possible
              · next closed =>
                  cases possible
                  exact .writerEnded found ended closed
              · cases possible
          · cases possible
      · cases possible
  | billingTick connId =>
      simp only [System.moved] at possible
      split at possible
      · next found =>
          split at possible
          · next sleeping =>
              cases possible
              exact .ticked found sleeping
          · cases possible
      · cases possible
  | advanceBilling connId clock =>
      simp only [System.moved] at possible
      split at possible
      · next found =>
          obtain ⟨billing, advanced, rfl⟩ := Option.map_eq_some_iff.mp possible
          exact .billed found advanced
      · cases possible
  | deliver connId =>
      simp only [System.moved] at possible
      split at possible
      · next found =>
          cases possible
          exact .delivered found
      · cases possible
  | writerStopped connId =>
      simp only [System.moved] at possible
      split at possible
      · next found =>
          cases possible
          exact .writerStopped found
      · cases possible
  | reorder =>
      cases possible
      exact .reordered

/-- The hub, seen from one room. -/
def hubMachine (hub : HubState) : Machine System Move Event where
  initial := System.initial
  step := System.step hub
  event := System.event

/-- The runs of the hub, seen from one room: the latest event comes first. -/
abbrev Run (hub : HubState) : List Event → System → Prop :=
  (hubMachine hub).Run

end Kaigi.Hub
