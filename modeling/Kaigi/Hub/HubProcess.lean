import Kaigi.Hub.Scripts
import Kaigi.Hub.Trace
import Kaigi.Interleaving.Family

/-!
# The hub process

The hub listens for sockets and serves all rooms at once. The first message of a socket says
which room it is for; then it draws a connection id and enters the room. Everything after that is
between the connections of one room.
-/

set_option autoImplicit false

namespace Kaigi.Hub

open Collections Wire Interleaving

abbrev RoomId := Vector UInt8 32

/-- What `handle_conn` uses of the first message. -/
structure KaigiStreamOpen where
  roomId : RoomId

inductive HandshakeError where
  | webSocketAccept
  | closedBeforeHandshake
  | readHandshake
  | notBinary
  | decode

/-- The handshake of `handle_conn`; the Norito decoder is not part of the repository. -/
def handshake (decodeOpen : List UInt8 → Option KaigiStreamOpen) :
    WsEvent → Except HandshakeError KaigiStreamOpen
  | .endOfStream => .error .closedBeforeHandshake
  | .error => .error .readHandshake
  | .binary bytes =>
    match decodeOpen bytes with
    | some streamOpen => .ok streamOpen
    | none => .error .decode
  | .ping _ | .ignored | .close => .error .notBinary

/-- Where the task of a socket stands. -/
inductive SocketPhase where
  /-- Accepted by the listener, before the handshake. -/
  | accepted
  | refused (error : HandshakeError)
  /-- The connection id is drawn, the room not entered yet. -/
  | numbered (roomId : RoomId) (connId : ConnId)
  | entered (roomId : RoomId) (connId : ConnId)

/-- The room and the connection id of a socket. -/
def SocketPhase.connection? : SocketPhase → Option (RoomId × ConnId)
  | .numbered roomId connId | .entered roomId connId => some (roomId, connId)
  | .accepted | .refused _ => none

structure HubProcess where
  rooms : RoomId → System
  /-- How often `next_conn_id.fetch_add(1)` was called. -/
  drawnIds : Nat
  sockets : Nat → Option SocketPhase

/-- The counter starts at 1 and wraps around. -/
def connIdOf (drawn : Nat) : ConnId :=
  (1 + drawn) % 2 ^ 64

inductive HubMove where
  | accept (socket : Nat)
  | webSocketFailed (socket : Nat)
  | handshake (socket : Nat) (first : WsEvent)
  | enter (socket : Nat) (connectedAtMs : Nat)
  | inRoom (roomId : RoomId) (move : Move)

/-- The event is a change in the order of a hash map, which is nobody's doing. -/
def Event.isReorder (event : Event) : Bool :=
  match event.op with
  | .reorder _ _ => true
  | _ => false

def Move.isConnect : Move → Bool
  | .connect _ _ => true
  | _ => false

namespace HubProcess

def initial : HubProcess where
  rooms := fun _ => System.initial
  drawnIds := 0
  sockets := fun _ => none

def setSocket (process : HubProcess) (socket : Nat) (phase : SocketPhase) : HubProcess :=
  { process with
    sockets := fun other => if other = socket then some phase else process.sockets other }

def setRoom (process : HubProcess) (roomId : RoomId) (system : System) : HubProcess :=
  { process with
    rooms := fun other => if other = roomId then system else process.rooms other }

def step (hub : HubState) (decodeOpen : List UInt8 → Option KaigiStreamOpen)
    (process : HubProcess) : HubMove → Option HubProcess
  | .accept socket =>
    match process.sockets socket with
    | none => some (process.setSocket socket .accepted)
    | some _ => none
  | .webSocketFailed socket =>
    match process.sockets socket with
    | some .accepted => some (process.setSocket socket (.refused .webSocketAccept))
    | _ => none
  | .handshake socket first =>
    match process.sockets socket with
    | some .accepted =>
      match Hub.handshake decodeOpen first with
      | .error error => some (process.setSocket socket (.refused error))
      | .ok streamOpen =>
        let connId := connIdOf process.drawnIds
        some { process.setSocket socket (.numbered streamOpen.roomId connId) with
          drawnIds := process.drawnIds + 1 }
    | _ => none
  | .enter socket connectedAtMs =>
    match process.sockets socket with
    | some (.numbered roomId connId) =>
      ((process.rooms roomId).step hub (.connect connId connectedAtMs)).map fun system =>
        (process.setRoom roomId system).setSocket socket (.entered roomId connId)
    | _ => none
  | .inRoom roomId move =>
    if move.isConnect then none
    else ((process.rooms roomId).step hub move).map (process.setRoom roomId)

def event (process : HubProcess) : HubMove → Option (RoomId × Event)
  | .enter socket connectedAtMs =>
    match process.sockets socket with
    | some (.numbered roomId connId) =>
      ((process.rooms roomId).event (.connect connId connectedAtMs)).map fun event =>
        (roomId, event)
    | _ => none
  | .inRoom roomId move => ((process.rooms roomId).event move).map fun event => (roomId, event)
  | .accept _ | .webSocketFailed _ | .handshake _ _ => none

end HubProcess

/-- The whole hub. -/
def hubProcessMachine (hub : HubState) (decodeOpen : List UInt8 → Option KaigiStreamOpen) :
    Machine HubProcess HubMove (RoomId × Event) where
  initial := HubProcess.initial
  step := HubProcess.step hub decodeOpen
  event := HubProcess.event

abbrev HubRun (hub : HubState) (decodeOpen : List UInt8 → Option KaigiStreamOpen) :
    List (RoomId × Event) → HubProcess → Prop :=
  (hubProcessMachine hub decodeOpen).Run

/-- What a move does to the hub. -/
inductive HubMoved (hub : HubState) (decodeOpen : List UInt8 → Option KaigiStreamOpen)
    (process : HubProcess) : HubMove → HubProcess → Prop where
  | accepted {socket : Nat} : process.sockets socket = none →
      HubMoved hub decodeOpen process (.accept socket) (process.setSocket socket .accepted)
  | refused {socket : Nat} {move : HubMove} (error : HandshakeError) :
      process.sockets socket = some .accepted → process.event move = none →
      HubMoved hub decodeOpen process move (process.setSocket socket (.refused error))
  | numbered {socket : Nat} {first : WsEvent} (roomId : RoomId) :
      process.sockets socket = some .accepted →
      HubMoved hub decodeOpen process (.handshake socket first)
        { process.setSocket socket (.numbered roomId (connIdOf process.drawnIds)) with
          drawnIds := process.drawnIds + 1 }
  | entered {socket connectedAtMs : Nat} {roomId : RoomId} {connId : ConnId} {system : System} :
      process.sockets socket = some (.numbered roomId connId) →
      (process.rooms roomId).step hub (.connect connId connectedAtMs) = some system →
      HubMoved hub decodeOpen process (.enter socket connectedAtMs)
        ((process.setRoom roomId system).setSocket socket (.entered roomId connId))
  | moved {roomId : RoomId} {move : Move} {system : System} : move.isConnect = false →
      (process.rooms roomId).step hub move = some system →
      HubMoved hub decodeOpen process (.inRoom roomId move) (process.setRoom roomId system)

section Moves

variable {hub : HubState} {decodeOpen : List UInt8 → Option KaigiStreamOpen}
  {process next : HubProcess} {move : HubMove}

theorem HubProcess.step_cases (stepped : process.step hub decodeOpen move = some next) :
    HubMoved hub decodeOpen process move next := by
  cases move with
  | accept socket =>
      simp only [HubProcess.step] at stepped
      split at stepped
      · next fresh =>
          cases stepped
          exact .accepted fresh
      · cases stepped
  | webSocketFailed socket =>
      simp only [HubProcess.step] at stepped
      split at stepped
      · next waiting =>
          cases stepped
          exact .refused _ waiting rfl
      · cases stepped
  | handshake socket first =>
      simp only [HubProcess.step] at stepped
      split at stepped
      · next waiting =>
          split at stepped
          · cases stepped
            exact .refused _ waiting rfl
          · cases stepped
            exact .numbered _ waiting
      · cases stepped
  | enter socket connectedAtMs =>
      simp only [HubProcess.step] at stepped
      split at stepped
      · next waiting =>
          obtain ⟨system, entered, rfl⟩ := Option.map_eq_some_iff.mp stepped
          exact .entered waiting entered
      · cases stepped
  | inRoom roomId move =>
      simp only [HubProcess.step] at stepped
      split at stepped
      · cases stepped
      · next other =>
          obtain ⟨system, moved, rfl⟩ := Option.map_eq_some_iff.mp stepped
          exact .moved (by simpa using other) moved

/-- The hub hosts one system for every room. -/
theorem hub_hosts (hub : HubState) (decodeOpen : List UInt8 → Option KaigiStreamOpen) :
    Hosts (hubProcessMachine hub decodeOpen) (hubMachine hub) HubProcess.rooms where
  initial _ := rfl
  step {process next move} stepped := by
    have set : ∀ roomId system other, other ≠ roomId →
        (process.setRoom roomId system).rooms other = process.rooms other := by
      intro roomId system other different
      simp [HubProcess.setRoom, different]
    cases HubProcess.step_cases stepped with
    | accepted | numbered => exact .quiet rfl
    | refused error waiting silent =>
        change FamilyStep _ _ _ (process.event move)
        rw [silent]
        exact .quiet rfl
    | @entered socket connectedAtMs roomId connId system waiting entered =>
        have made : process.event (.enter socket connectedAtMs) =
            ((process.rooms roomId).event (.connect connId connectedAtMs)).map fun event =>
              (roomId, event) := by
          simp [HubProcess.event, waiting]
        change FamilyStep _ _ _ (process.event (.enter socket connectedAtMs))
        rw [made]
        refine .moves roomId (Move.connect connId connectedAtMs) ?_ (set roomId system)
        simp only [HubProcess.setSocket, HubProcess.setRoom, if_true]
        exact entered
    | @moved roomId move system _ moved =>
        refine .moves roomId move ?_ (set roomId system)
        simp only [HubProcess.setRoom, if_true]
        exact moved

end Moves

/-! ### Who is known in a room -/

section Known

variable {hub : HubState} {system next : System} {move : Move} {connId : ConnId}

theorem System.known_setConnection {other : ConnId} {connection : Connection}
    (known : system.connections connId ≠ none) :
    (system.setConnection other connection).connections connId ≠ none := by
  simp only [System.setConnection]
  split
  · exact Option.some_ne_none connection
  · exact known

theorem System.known_self {connection : Connection} :
    (system.setConnection connId connection).connections connId ≠ none := by
  simp [System.setConnection]

theorem System.perform_connections (event? : Option Event) :
    (system.perform hub event?).connections = system.connections := by
  cases event? <;> rfl

/-- A connection that is known stays known. -/
theorem System.step_known (stepped : system.step hub move = some next)
    (known : system.connections connId ≠ none) : next.connections connId ≠ none := by
  obtain ⟨moved, possible, rfl⟩ := Option.map_eq_some_iff.mp stepped
  rw [System.perform_connections]
  cases System.moved_cases possible with
  | connected | received | advanced | writerEnded | ticked | billed =>
      exact System.known_setConnection known
  | delivered | writerStopped | reordered => exact known

theorem System.known_of_step (stepped : system.step hub move = some next)
    (known : next.connections connId ≠ none) :
    system.connections connId ≠ none ∨ ∃ connectedAtMs, move = .connect connId connectedAtMs := by
  obtain ⟨moved, possible, rfl⟩ := Option.map_eq_some_iff.mp stepped
  rw [System.perform_connections] at known
  exact System.moved_connections possible known

theorem System.known_iff (stepped : system.step hub move = some next)
    (other : move.isConnect = false) :
    next.connections connId ≠ none ↔ system.connections connId ≠ none := by
  constructor
  · intro known
    rcases System.known_of_step stepped known with was | ⟨connectedAtMs, connects⟩
    · exact was
    · rw [connects] at other
      cases other
  · exact System.step_known stepped

theorem System.known_iff_connect {connectedAtMs : Nat} {newcomer : ConnId}
    (stepped : system.step hub (.connect newcomer connectedAtMs) = some next) :
    next.connections connId ≠ none ↔ connId = newcomer ∨ system.connections connId ≠ none := by
  constructor
  · intro known
    rcases System.known_of_step stepped known with was | ⟨_, connects⟩
    · exact .inr was
    · cases connects
      exact .inl rfl
  · rintro (rfl | was)
    · obtain ⟨moved, possible, rfl⟩ := Option.map_eq_some_iff.mp stepped
      rw [System.perform_connections]
      cases System.moved_cases possible with
      | connected => exact System.known_self
    · exact System.step_known stepped was

/-- Whatever happens in a room is done by somebody known there, or by nobody. -/
theorem System.step_event_known (stepped : system.step hub move = some next) {event : Event}
    (made : system.event move = some event) :
    event.isReorder = true ∨ next.connections event.connId ≠ none := by
  obtain ⟨moved, possible, rfl⟩ := Option.map_eq_some_iff.mp stepped
  rw [System.perform_connections]
  cases System.moved_cases possible with
  | connected =>
      cases made
      exact .inr System.known_self
  | delivered found | writerStopped found =>
      cases made
      exact .inr (by simp [found])
  | @received _ message =>
      cases message with
      | ping =>
          cases made
          exact .inr System.known_self
      | _ => cases made
  | advanced | billed =>
      obtain ⟨_, _, rfl⟩ := Option.map_eq_some_iff.mp made
      exact .inr System.known_self
  | writerEnded | ticked => cases made
  | reordered =>
      cases made
      exact .inl rfl

end Known

/-! ### Every run of the hub -/

section Runs

variable {hub : HubState} {decodeOpen : List UInt8 → Option KaigiStreamOpen}
  {history : List (RoomId × Event)} {process : HubProcess}

/-- The room and the connection id of a socket, once it has them. -/
def HubProcess.connection? (process : HubProcess) (socket : Nat) : Option (RoomId × ConnId) :=
  (process.sockets socket).bind (·.connection?)

/-- The ids that were drawn belong to one socket each. -/
structure HubProcess.Numbered (process : HubProcess) : Prop where
  drawn : ∀ socket roomId connId, process.connection? socket = some (roomId, connId) →
    ∃ number < process.drawnIds, connId = connIdOf number
  apart : ∀ socket other roomId otherRoom connId,
    process.connection? socket = some (roomId, connId) →
    process.connection? other = some (otherRoom, connId) → socket = other

/-- Whoever is known in a room has entered it through a socket, and events are by them. -/
structure HubProcess.Attended (history : List (RoomId × Event)) (process : HubProcess) : Prop where
  known : ∀ roomId connId, (process.rooms roomId).connections connId ≠ none ↔
    ∃ socket, process.sockets socket = some (.entered roomId connId)
  events : ∀ roomId event, (roomId, event) ∈ history → event.isReorder = true ∨
    (process.rooms roomId).connections event.connId ≠ none

theorem connIdOf_inj {first second : Nat} (few : first < 2 ^ 64) (fewToo : second < 2 ^ 64)
    (same : connIdOf first = connIdOf second) : first = second := by
  have same : ((1 + first) % 2 ^ 64 : Nat) = (1 + second) % 2 ^ 64 := same
  omega

theorem HubProcess.connection?_setSocket (process : HubProcess) (socket other : Nat)
    (phase : SocketPhase) : (process.setSocket socket phase).connection? other =
      if other = socket then phase.connection? else process.connection? other := by
  simp only [HubProcess.connection?, HubProcess.setSocket]
  split <;> rfl

theorem HubProcess.Numbered.congr {next : HubProcess} (numbered : process.Numbered)
    (drawn : next.drawnIds = process.drawnIds) (same : ∀ socket,
      next.connection? socket = none ∨ next.connection? socket = process.connection? socket) :
    next.Numbered := by
  have was : ∀ socket connection, next.connection? socket = some connection →
      process.connection? socket = some connection := by
    intro socket connection known
    rcases same socket with none | kept
    · rw [none] at known
      cases known
    · exact kept ▸ known
  constructor
  · intro socket roomId connId known
    rw [drawn]
    exact numbered.drawn socket roomId connId (was socket _ known)
  · intro socket other roomId otherRoom connId known knownToo
    exact numbered.apart socket other roomId otherRoom connId (was socket _ known)
      (was other _ knownToo)

theorem HubProcess.Numbered.step {next : HubProcess} {move : HubMove}
    (numbered : process.Numbered) (moved : HubMoved hub decodeOpen process move next)
    (few : next.drawnIds ≤ 2 ^ 64) : next.Numbered := by
  cases moved with
  | accepted fresh =>
      refine numbered.congr rfl fun other => ?_
      rw [connection?_setSocket]
      split
      · exact .inl rfl
      · exact .inr rfl
  | refused error waiting silent =>
      refine numbered.congr rfl fun other => ?_
      rw [connection?_setSocket]
      split
      · exact .inl rfl
      · exact .inr rfl
  | @numbered socket first roomId waiting =>
      have drawn : ∀ other, HubProcess.connection? { process.setSocket socket
          (.numbered roomId (connIdOf process.drawnIds)) with
            drawnIds := process.drawnIds + 1 } other =
          if other = socket then some (roomId, connIdOf process.drawnIds)
          else process.connection? other :=
        fun other => connection?_setSocket process socket other _
      -- No id that was drawn before is drawn again.
      have fresh : ∀ other otherRoom,
          process.connection? other ≠ some (otherRoom, connIdOf process.drawnIds) := by
        intro other otherRoom known
        obtain ⟨number, before, same⟩ := numbered.drawn other otherRoom _ known
        have few : process.drawnIds + 1 ≤ 2 ^ 64 := few
        have equal := connIdOf_inj (by omega) (by omega) same
        omega
      constructor
      · intro other otherRoom connId known
        rw [drawn] at known
        split at known
        · cases known
          exact ⟨process.drawnIds, Nat.lt_succ_self _, rfl⟩
        · obtain ⟨number, before, same⟩ := numbered.drawn other otherRoom connId known
          exact ⟨number, Nat.lt_succ_of_lt before, same⟩
      · intro one two oneRoom twoRoom connId known knownToo
        rw [drawn] at known knownToo
        split at known
        · next here =>
            cases known
            split at knownToo
            · next hereToo => exact here.trans hereToo.symm
            · exact absurd knownToo (fresh two twoRoom)
        · split at knownToo
          · cases knownToo
            exact absurd known (fresh one oneRoom)
          · exact numbered.apart one two oneRoom twoRoom connId known knownToo
  | @entered socket connectedAtMs roomId connId system waiting entered =>
      refine numbered.congr rfl fun other => .inr ?_
      rw [connection?_setSocket]
      split
      · next same =>
          subst same
          simp [HubProcess.connection?, waiting, SocketPhase.connection?]
      · rfl
  | moved => exact numbered.congr rfl fun _ => .inr rfl

/-- A move in one room keeps everybody who has made an event known there. -/
theorem HubProcess.Attended.events_step (attended : process.Attended history) {roomId : RoomId}
    {move : Move} {system : System}
    (stepped : (process.rooms roomId).step hub move = some system) (room : RoomId) (event : Event)
    (happened : (room, event) ∈ (((process.rooms roomId).event move).map fun event =>
      (roomId, event)).toList ++ history) :
    event.isReorder = true ∨
      ((process.setRoom roomId system).rooms room).connections event.connId ≠ none := by
  simp only [HubProcess.setRoom]
  rcases List.mem_append.mp happened with latest | earlier
  · obtain ⟨made, left, same⟩ := Option.map_eq_some_iff.mp (Option.mem_toList.mp latest)
    cases same
    rw [if_pos rfl]
    exact System.step_event_known stepped left
  · rcases attended.events room event earlier with nobody | known
    · exact .inl nobody
    · refine .inr ?_
      split
      · next same =>
          rw [same] at known
          exact System.step_known stepped known
      · exact known

theorem HubProcess.Attended.step {next : HubProcess} {move : HubMove}
    (attended : process.Attended history) (moved : HubMoved hub decodeOpen process move next) :
    next.Attended ((process.event move).toList ++ history) := by
  -- A socket that has not entered may change its phase without entering.
  have outside : ∀ {socket : Nat} {phase : SocketPhase} {roomId : RoomId} {connId : ConnId},
      (∀ phase, process.sockets socket = some phase → ∀ room conn, phase ≠ .entered room conn) →
      (∀ room conn, phase ≠ .entered room conn) →
      ((∃ other, (process.setSocket socket phase).sockets other = some (.entered roomId connId)) ↔
        ∃ other, process.sockets other = some (.entered roomId connId)) := by
    intro socket phase roomId connId before after
    constructor
    · rintro ⟨other, entered⟩
      simp only [HubProcess.setSocket] at entered
      split at entered
      · exact absurd (Option.some.inj entered) (after roomId connId)
      · exact ⟨other, entered⟩
    · rintro ⟨other, entered⟩
      refine ⟨other, ?_⟩
      simp only [HubProcess.setSocket]
      rw [if_neg]
      · exact entered
      · rintro rfl
        exact before _ entered roomId connId rfl
  cases moved with
  | accepted fresh =>
      refine ⟨fun roomId connId => (attended.known roomId connId).trans (outside ?_ ?_).symm,
        attended.events⟩
      · intro phase found
        rw [fresh] at found
        cases found
      · intro _ _ same
        cases same
  | refused error waiting silent =>
      rw [silent]
      refine ⟨fun roomId connId => (attended.known roomId connId).trans (outside ?_ ?_).symm,
        attended.events⟩
      · intro phase found _ _ same
        rw [waiting] at found
        cases found
        cases same
      · intro _ _ same
        cases same
  | @numbered socket first roomId waiting =>
      refine ⟨fun roomId connId => (attended.known roomId connId).trans (outside ?_ ?_).symm,
        attended.events⟩
      · intro phase found _ _ same
        rw [waiting] at found
        cases found
        cases same
      · intro _ _ same
        cases same
  | @entered socket connectedAtMs roomId connId system waiting entered =>
      have made : process.event (.enter socket connectedAtMs) =
          ((process.rooms roomId).event (.connect connId connectedAtMs)).map fun event =>
            (roomId, event) := by
        simp [HubProcess.event, waiting]
      rw [made]
      refine ⟨fun room conn => ?_, attended.events_step entered⟩
      have here : ((process.setRoom roomId system).rooms room).connections conn ≠ none ↔
          (room = roomId ∧ conn = connId) ∨ (process.rooms room).connections conn ≠ none := by
        simp only [HubProcess.setRoom]
        split
        · next same =>
            rw [System.known_iff_connect entered, same]
            simp
        · next other => simp [other]
      refine here.trans ?_
      rw [attended.known]
      constructor
      · rintro (⟨rfl, rfl⟩ | ⟨other, was⟩)
        · exact ⟨socket, by simp [HubProcess.setSocket]⟩
        · refine ⟨other, ?_⟩
          simp only [HubProcess.setSocket, HubProcess.setRoom]
          rw [if_neg]
          · exact was
          · rintro rfl
            rw [waiting] at was
            cases was
      · rintro ⟨other, now⟩
        simp only [HubProcess.setSocket, HubProcess.setRoom] at now
        split at now
        · cases now
          exact .inl ⟨rfl, rfl⟩
        · exact .inr ⟨other, now⟩
  | @moved roomId move system other moved =>
      refine ⟨fun room conn => Iff.trans ?_ (attended.known room conn), attended.events_step moved⟩
      simp only [HubProcess.setRoom]
      split
      · next same =>
          rw [same]
          exact System.known_iff moved other
      · exact Iff.rfl

theorem HubMoved.drawnIds_le {next : HubProcess} {move : HubMove}
    (moved : HubMoved hub decodeOpen process move next) : process.drawnIds ≤ next.drawnIds := by
  cases moved with
  | numbered => exact Nat.le_succ _
  | accepted | refused | entered | moved => exact Nat.le_refl _

theorem HubRun.numbered (run : HubRun hub decodeOpen history process)
    (few : process.drawnIds ≤ 2 ^ 64) : process.Numbered := by
  have always : process.drawnIds ≤ 2 ^ 64 → process.Numbered := by
    refine Machine.Run.invariant (fun _ process => process.drawnIds ≤ 2 ^ 64 → process.Numbered)
      ?_ ?_ run
    · intro _
      constructor
      · intro _ _ _ known
        cases known
      · intro _ _ _ _ _ known
        cases known
    · intro history before move next _ ih stepped few
      have moved := HubProcess.step_cases stepped
      exact (ih (moved.drawnIds_le.trans few)).step moved few
  exact always few

theorem HubRun.attended (run : HubRun hub decodeOpen history process) :
    process.Attended history := by
  refine Machine.Run.invariant (fun history process => process.Attended history) ?_ ?_ run
  · constructor
    · intro roomId connId
      constructor
      · intro known
        exact absurd rfl known
      · rintro ⟨_, entered⟩
        cases entered
    · intro _ _ happened
      cases happened
  · intro history before move next _ ih stepped
    exact ih.step (HubProcess.step_cases stepped)

theorem mem_memberHistory {roomId : RoomId} {event : Event} :
    event ∈ memberHistory roomId history ↔ (roomId, event) ∈ history := by
  simp [memberHistory]

/-- The hub serves all rooms at once. As long as fewer than 2^64 connection ids are drawn, every
run of the hub is, for each room, a run of that room alone, with its own events and state; no two
sockets share a connection id; whoever takes part in a room, or does anything there, is the
connection of a socket that has entered that room, so nobody is in two rooms, and a refused
handshake leaves no trace; and a socket with an id is never kept out. -/
theorem hub_serves_rooms (run : HubRun hub decodeOpen history process)
    (few : process.drawnIds ≤ 2 ^ 64) :
    (∀ roomId, Run hub (memberHistory roomId history) (process.rooms roomId)) ∧
    (∀ socket other roomId otherRoom connId,
      process.connection? socket = some (roomId, connId) →
      process.connection? other = some (otherRoom, connId) → socket = other) ∧
    (∀ roomId room connId, (process.rooms roomId).shared.room = some room →
      room.participants.get? connId ≠ none →
        ∃ socket, process.sockets socket = some (.entered roomId connId)) ∧
    (∀ roomId event, (roomId, event) ∈ history → event.isReorder = false →
      ∃ socket, process.sockets socket = some (.entered roomId event.connId) ∧
        ∀ otherRoom other, (otherRoom, other) ∈ history → other.isReorder = false →
          other.connId = event.connId → otherRoom = roomId) ∧
    ∀ socket roomId connId connectedAtMs,
      process.sockets socket = some (.numbered roomId connId) →
        ∃ next, process.step hub decodeOpen (.enter socket connectedAtMs) = some next := by
  have attended := run.attended
  have numbered := run.numbered few
  have rooms := fun roomId => (hub_hosts hub decodeOpen).run run roomId
  have acts : ∀ roomId event, (roomId, event) ∈ history → event.isReorder = false →
      ∃ socket, process.sockets socket = some (.entered roomId event.connId) := by
    intro roomId event happened done
    rcases attended.events roomId event happened with reordered | known
    · rw [done] at reordered
      cases reordered
    · exact (attended.known roomId event.connId).mp known
  refine ⟨rooms, numbered.apart, ?_, ?_, ?_⟩
  · intro roomId room connId found present
    obtain ⟨trace, shared⟩ := Run.trace (rooms roomId)
    have inside : connId ∈ (sharedAfter hub (memberHistory roomId history)).connections := by
      rw [← shared, HubRoom.connections_of_some found, HashMap.mem_keys]
      exact Option.isSome_iff_ne_none.mpr present
    obtain ⟨event, happened, rfl, connectedAtMs, connects⟩ := trace.connected inside
    refine acts roomId event (mem_memberHistory.mp happened) ?_
    simp [Event.isReorder, connects]
  · intro roomId event happened done
    obtain ⟨socket, entered⟩ := acts roomId event happened done
    refine ⟨socket, entered, ?_⟩
    intro otherRoom other happenedToo doneToo same
    obtain ⟨otherSocket, enteredToo⟩ := acts otherRoom other happenedToo doneToo
    have known : process.connection? socket = some (roomId, event.connId) := by
      simp [HubProcess.connection?, entered, SocketPhase.connection?]
    have knownToo : process.connection? otherSocket = some (otherRoom, event.connId) := by
      simp [HubProcess.connection?, enteredToo, SocketPhase.connection?, same]
    have equal := numbered.apart otherSocket socket otherRoom roomId event.connId knownToo known
    rw [equal, known] at knownToo
    cases knownToo
    rfl
  · intro socket roomId connId connectedAtMs waiting
    have unused : (process.rooms roomId).connections connId = none := by
      by_contra known
      obtain ⟨other, entered⟩ := (attended.known roomId connId).mp known
      have equal := numbered.apart socket other roomId roomId connId
        (by simp [HubProcess.connection?, waiting, SocketPhase.connection?])
        (by simp [HubProcess.connection?, entered, SocketPhase.connection?])
      rw [equal, entered] at waiting
      cases waiting
    exact ⟨_, by simp [HubProcess.step, waiting, System.step, System.moved, unused]; rfl⟩

end Runs

/-- The room of the script with that number. -/
def scriptedRoom (number : UInt8) : RoomId :=
  Vector.replicate 32 number

/-- A first message is one byte, the number of a room. -/
def scriptedOpen : List UInt8 → Option KaigiStreamOpen
  | [number] => some ⟨scriptedRoom number⟩
  | _ => none

def lobbyHub : HubState :=
  scriptedHub [helloAs "alice@sora"]

/-- One socket is refused, and alice joins two rooms through two others. The first of them draws
its id first and enters last. -/
def lobbyScript : List HubMove :=
  [.accept 0, .accept 1, .accept 2, .handshake 0 .ignored, .handshake 1 (.binary [7]),
    .handshake 2 (.binary [8]), .enter 2 0, .enter 1 0] ++
  (sendsFrame 1 0 1 25).map (.inRoom (scriptedRoom 7)) ++
  (sendsFrame 2 0 1 25).map (.inRoom (scriptedRoom 8))

theorem hub_serves_rooms_script :
    ∃ history process, HubRun lobbyHub scriptedOpen history process ∧
      (∃ room, (process.rooms (scriptedRoom 7)).shared.room = some room ∧
        room.helloSeen 1 = true) ∧
      (∃ room, (process.rooms (scriptedRoom 8)).shared.room = some room ∧
        room.helloSeen 2 = true) ∧
      Run lobbyHub (memberHistory (scriptedRoom 7) history) (process.rooms (scriptedRoom 7)) := by
  have plays : ((hubProcessMachine lobbyHub scriptedOpen).execute lobbyScript []
      HubProcess.initial).any (fun result => decide (result.2.drawnIds ≤ 2 ^ 64) &&
        (result.2.rooms (scriptedRoom 7)).shared.room.any (·.helloSeen 1) &&
        (result.2.rooms (scriptedRoom 8)).shared.room.any (·.helloSeen 2)) = true := by
    decide +kernel
  obtain ⟨⟨history, process⟩, played, checks⟩ := (Option.any_eq_true ..).mp plays
  simp only [Bool.and_eq_true, decide_eq_true_eq, Option.any_eq_true] at checks
  obtain ⟨⟨few, seven⟩, eight⟩ := checks
  have run : HubRun lobbyHub scriptedOpen history process := Machine.Run.initial.execute played
  exact ⟨history, process, run, seven, eight, (hub_serves_rooms run few).1 (scriptedRoom 7)⟩

end Kaigi.Hub
