import Kaigi.Authority.Rules
import Kaigi.Hub.Connection
import Kaigi.Hub.GroupSteps

/-!
# The discipline of the handlers

What every handler of the hub promises about its operations, and what it may
rely on while it waits for the lock: the contract of one task of one connection.
-/

set_option autoImplicit false

namespace Kaigi.Hub

open Collections Wire Interleaving Authority

/-- What a task of a connection is doing. -/
inductive Role where
  | serving
  | leaving
  | charging
deriving DecidableEq

def Role.task : Role → Task
  | .serving | .leaving => .connection
  | .charging => .billing

/-- The operations that the code of a role contains. -/
def Role.permits : Role → Operation → Bool
  | .serving, .connect _ | .serving, .disconnect _ _ | .serving, .billing _
  | .serving, .reorder _ _ | .serving, .takeMessage | .serving, .closeChannel => false
  -- Whoever joins has its media off.
  | .serving, .hello frame _ _ =>
      !frame.micEnabled && !frame.videoEnabled && !frame.screenShareEnabled
  | .serving, _ => true
  | .leaving, .disconnect _ _ | .leaving, .read | .leaving, .lookup _ | .leaving, .fanout _
  | .leaving, .backpressure _ _ | .leaving, .trySend _ _ | .leaving, .groupKeyRotate _ => true
  | .leaving, _ => false
  | .charging, .billing _ | .charging, .trySend _ _ => true
  | .charging, _ => false

/-- Frames that carry what happens in a transparent room. -/
def isRoomContent : KaigiFrame → Bool
  | .chat _ | .event (.stateUpdated _) | .mediaTrackState _ | .videoSegment _ | .audioPacket _
  | .roleGrant _ | .roleRevoke _ | .participantPresenceDelta _ => true
  | _ => false

namespace Operation

/-- Operations that only transparent handlers perform, behind the check of the
room mode, and that could do harm in an anonymous room. -/
def needsTransparent : Operation → Bool
  | .moderation _ _ _ | .roomConfigUpdate _ _ | .payment _ _ => true
  | _ => false

def isAnonHello : Operation → Bool
  | .anonHello _ _ _ => true
  | _ => false

/-- The room content that the operation puts into a channel, with its recipient. -/
def delivers : Operation → Option (ConnId × KaigiFrame)
  | .trySend target (.binary frame) => if isRoomContent frame then some (target, frame) else none
  | _ => none

/-- The frame whose recipients the operation takes. -/
def fansOut : Operation → Option KaigiFrame
  | .fanout frame => some frame
  | _ => none

end Operation

def HubRoom.connections (state : HubRoom) : List ConnId :=
  (state.room.map fun room => room.participants.keys).getD []

theorem HubRoom.connections_of_some {state : HubRoom} {room : RoomState}
    (found : state.room = some room) : state.connections = room.participants.keys := by
  simp [HubRoom.connections, found]

theorem HubRoom.exists_of_mem_connections {state : HubRoom} {connId : ConnId}
    (member : connId ∈ state.connections) :
    ∃ room, state.room = some room ∧ connId ∈ room.participants.keys := by
  unfold HubRoom.connections at member
  cases found : state.room with
  | none => simp [found] at member
  | some room => exact ⟨room, rfl, by simpa [found] using member⟩

/-- Whoever is in the room is among its connections. -/
theorem HubRoom.mem_connections {state : HubRoom} {room : RoomState} {connId : ConnId}
    {participant : ParticipantState} (found : state.room = some room)
    (present : room.participants.get? connId = some participant) : connId ∈ state.connections := by
  rw [HubRoom.connections_of_some found, HashMap.mem_keys, present]
  rfl

/-- Nobody answers to `connId`: it is not in the room, or there is no room. -/
def HubRoom.Lacks (state : HubRoom) (connId : ConnId) : Prop :=
  ∀ room, state.room = some room → room.participants.get? connId = none

/-- The connection, if it is in the room, is not anonymous there. -/
def HubRoom.TransparentAt (state : HubRoom) (connId : ConnId) : Prop :=
  ∀ room participant, state.room = some room →
    room.participants.get? connId = some participant → participant.anonymousMode = false

def HubRoom.Separated (state : HubRoom) : Prop :=
  ∀ room, state.room = some room → ModeSeparated (groupOf room)

/-- The operation looked for a participant that is not there. -/
def Event.FoundNobody (event : Event) : Prop :=
  match event.op with
  | .lookup target => event.before.Lacks target
  | .hello _ _ _ => event.before.Lacks event.connId
  | _ => False

/-- The frame of the latest fan-out, with the state its recipients were taken
from. -/
def lastFanout : List Event → Option (KaigiFrame × HubRoom)
  | [] => none
  | event :: earlier =>
      match event.op.fansOut with
      | some frame => some (frame, event.before)
      | none => lastFanout earlier

/-- The shared state, with what the task itself has done so far. -/
structure World where
  shared : HubRoom
  own : List Event

/-- What the guard of an operation demands of the task that performs it. -/
structure Guarded (role : Role) (connId : ConnId) (op : Operation) (world : World) : Prop where
  permitted : role.permits op = true
  transparent : op.needsTransparent = true → world.shared.TransparentAt connId
  delivered : ∀ target frame, op.delivers = some (target, frame) →
    ∃ taken, lastFanout world.own = some (frame, taken) ∧ target ∈ taken.connections

/-- What the others may do to a task: they never touch its own history, they
keep the modes apart, and they never make its connection anonymous. -/
structure Undisturbed (role : Role) (connId : ConnId) (before after : World) : Prop where
  own : after.own = before.own
  separated : before.shared.Separated → after.shared.Separated
  transparent : role.task = .connection → before.shared.TransparentAt connId →
    after.shared.TransparentAt connId

/-- A handler fails when a frame cannot be encoded, or right after it did not
find the participant it looked for. -/
def MayFail (error : HubError) (world : World) : Prop :=
  match error with
  | .wire _ => True
  | .roomMissing | .participantMissing =>
      ∃ event earlier, world.own = event :: earlier ∧ event.FoundNobody
  | .wsRecv => False

/-- The contract of a task of one connection. -/
def hubContract (hub : HubState) (role : Role) (connId : ConnId) :
    Contract HubRoom World Operation HubError where
  view := World.shared
  act := fun op world => {
    shared := op.apply hub connId world.shared
    own := ⟨connId, role.task, op, world.shared⟩ :: world.own }
  rely := Undisturbed role connId
  rely_refl := fun _ => ⟨rfl, id, fun _ => id⟩
  rely_trans := fun first second =>
    ⟨second.own.trans first.own, second.separated ∘ first.separated,
      fun task => second.transparent task ∘ first.transparent task⟩
  guard := Guarded role connId
  abort := MayFail
  abort_stable := fun {error _ _} undisturbed fails => by
    cases error with
    | wire => trivial
    | roomMissing | participantMissing =>
        obtain ⟨event, earlier, own, nobody⟩ := fails
        exact ⟨event, earlier, undisturbed.own.trans own, nobody⟩
    | wsRecv => exact fails

/-- What a task knows at every point: the modes are separated, and, when it is
`sure`, its own connection is not anonymous. Only the connection task itself can
be sure of that. -/
structure Assured (role : Role) (sure : Bool) (connId : ConnId) (world : World) : Prop where
  separated : world.shared.Separated
  transparent : sure = true → role.task = .connection → world.shared.TransparentAt connId

section Apply

variable {hub : HubState} {connId : ConnId} {op : Operation} {state : HubRoom}

theorem HubRoom.Separated.opened (separated : state.Separated) :
    ModeSeparated (groupOf (state.opened hub)) := by
  unfold HubRoom.opened
  cases found : state.room with
  | none =>
      constructor
      · intro impossible
        cases impossible
      · intro _ other member present
        simp [groupOf, emptyRoom] at present
  | some room => exact separated room found

/-- Moderators are not anonymous. -/
theorem transparentAdmission_action
    (admission : op.needsTransparent = true → state.TransparentAt connId) :
    TransparentAdmission (op.action (state.opened hub) connId) (groupOf (state.opened hub)) := by
  rintro sender target request member present
  obtain ⟨participant, found, rfl⟩ := members_groupOf_eq_some.mp present
  cases op with
  | moderation frame nowMs admitAtMs =>
      have same : sender = connId := by
        simp only [Operation.action, moderationAction] at request
        split at request <;> cases request
        rfl
      subst same
      cases room : state.room with
      | none => simp [HubRoom.opened, room, emptyRoom] at found
      | some current =>
          rw [HubRoom.opened_of_some room] at found
          exact admission rfl current participant room found
  | _ => cases request

/-- The modes stay apart under every operation, provided that moderators are
not anonymous and that connections are new. -/
theorem HubRoom.Separated.apply (separated : state.Separated)
    (fresh : ∀ connectedAtMs, op = .connect connectedAtMs →
      (state.opened hub).participants.get? connId = none)
    (admission : op.needsTransparent = true → state.TransparentAt connId) :
    (op.apply hub connId state).Separated :=
  fun _ left => (apply_step fresh left).modeSeparated (transparentAdmission_action admission)
    separated.opened

/-- Only its own anonymous hello makes a connection anonymous. -/
theorem HubRoom.TransparentAt.apply {other : ConnId} (transparent : state.TransparentAt other)
    (fresh : ∀ connectedAtMs, op = .connect connectedAtMs →
      (state.opened hub).participants.get? connId = none)
    (notOwn : op.isAnonHello = true → connId ≠ other) :
    (op.apply hub connId state).TransparentAt other := by
  intro after participant left found
  have earlier : ∀ member, (groupOf (state.opened hub)).members other = some member →
      member.anonymous = false := by
    intro member present
    obtain ⟨current, stored, rfl⟩ := members_groupOf_eq_some.mp present
    cases room : state.room with
    | none => simp [HubRoom.opened, room, emptyRoom] at stored
    | some before =>
        rw [HubRoom.opened_of_some room] at stored
        exact transparent before current room stored
  have became := (apply_step fresh left).became (members_groupOf found)
  change (memberOf participant).anonymous = false
  generalize memberOf participant = member at became ⊢
  cases became with
  | kept same => exact earlier _ same
  | entered _ _ _ _ notAnonymous => exact notAnonymous
  | waits | joins => rfl
  | turnsAnonymous request =>
      cases op with
      | anonHello =>
          cases request
          exact absurd rfl (notOwn rfl)
      | moderation =>
          simp only [Operation.action, moderationAction] at request
          split at request <;> cases request
      | _ => cases request
  | @admitted _ old _ present => exact earlier old present

end Apply

/-- No task but the connection loop's caller connects. -/
theorem Role.permits_connect {role : Role} {op : Operation} (permitted : role.permits op = true)
    {connectedAtMs : Nat} : op ≠ .connect connectedAtMs := by
  rintro rfl
  cases role <;> cases permitted

theorem Assured.act {role : Role} {sure : Bool} {connId : ConnId} {op : Operation}
    {world : World} (assured : Assured role sure connId world) (hub : HubState)
    (guarded : Guarded role connId op world) (notOwn : op.isAnonHello = true → sure = false) :
    Assured role sure connId ((hubContract hub role connId).act op world) where
  separated := assured.separated.apply
    (fun _ connects => absurd connects (Role.permits_connect guarded.permitted))
    guarded.transparent
  transparent certain task := (assured.transparent certain task).apply
    (fun _ connects => absurd connects (Role.permits_connect guarded.permitted))
    fun own => by rw [notOwn own] at certain; cases certain

theorem stable_assured (hub : HubState) {role : Role} {sure : Bool} {connId : ConnId} :
    Process.Stable (hubContract hub role connId) (Assured role sure connId) :=
  fun _ _ undisturbed assured =>
    ⟨undisturbed.separated assured.separated, fun certain task =>
      undisturbed.transparent task (assured.transparent certain task)⟩

end Kaigi.Hub
