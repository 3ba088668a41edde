import Kaigi.Hub.AnonymousKeys
import Kaigi.Hub.FrameOperations

/-!
# The origin of keyed frames

A connection task fans out a key update, a rotation or a sealed control frame only
after its own critical section has built or checked that frame.
-/

set_option autoImplicit false

namespace Kaigi.Hub

open Collections Wire Interleaving

/-! ### Sections -/

/-- The section of `AnonHello` refuses, or it writes the hello into the participant and
builds the frames about the room that it leaves. -/
inductive AnonHelloStep (hub : HubState) (room : RoomState) (connId : ConnId)
    (hello : AnonHelloFrame) (nowMs rosterAtMs : Nat) : RoomState × AnonHelloOutcome → Prop where
  | refused {after : RoomState} {outcome : AnonHelloOutcome} :
      after.participants = room.participants → after.permissionsEpoch = room.permissionsEpoch →
      (∀ roster update rotate, outcome ≠ .accepted roster update rotate) →
      AnonHelloStep hub room connId hello nowMs rosterAtMs (after, outcome)
  | announced {participant joined : ParticipantState} {entered : RoomState} :
      room.participants.get? connId = some participant →
      applyAnonHelloState participant hello nowMs = .ok joined →
      entered.participants = room.participants.modify connId (fun _ => joined) →
      entered.permissionsEpoch = room.permissionsEpoch →
      AnonHelloStep hub room connId hello nowMs rosterAtMs
        ((buildAnonGroupKeyRotateFrame hub entered nowMs).1,
          .accepted (anonRosterFrameLocked entered rosterAtMs)
            { sentAtMs := nowMs
              participantHandle := hello.participantHandle
              x25519PubkeyHex := hello.x25519PubkeyHex
              epoch := joined.x25519Epoch }
            (buildAnonGroupKeyRotateFrame hub entered nowMs).2)

section Sections

variable {hub : HubState} {room : RoomState} {connId : ConnId}

theorem announceAnonHello_cases (hello : AnonHelloFrame) (nowMs rosterAtMs : Nat)
    {enter : RoomState → RoomState}
    (participants : ∀ room, (enter room).participants = room.participants)
    (epoch : ∀ room, (enter room).permissionsEpoch = room.permissionsEpoch) :
    AnonHelloStep hub room connId hello nowMs rosterAtMs
      (announceAnonHello hub room connId hello nowMs rosterAtMs enter) := by
  unfold announceAnonHello
  cases found : room.participants.get? connId with
  | none => exact .refused rfl rfl nofun
  | some participant =>
      dsimp only
      cases applied : applyAnonHelloState participant hello nowMs with
      | error message => exact .refused rfl rfl nofun
      | ok joined => exact .announced found applied (participants _) (epoch _)

theorem anonHelloSection_cases (hub : HubState) (room : RoomState) (connId : ConnId)
    (hello : AnonHelloFrame) (nowMs rosterAtMs : Nat) :
    AnonHelloStep hub room connId hello nowMs rosterAtMs
      (anonHelloSection hub room connId hello nowMs rosterAtMs) := by
  unfold anonHelloSection
  split
  · exact .refused rfl rfl nofun
  · split
    · exact .refused rfl rfl nofun
    · split
      · split
        · exact .refused rfl rfl nofun
        · split
          · exact .refused rfl rfl nofun
          · exact announceAnonHello_cases hello nowMs rosterAtMs (fun _ => rfl) fun _ => rfl
      · exact announceAnonHello_cases hello nowMs rosterAtMs (fun _ => rfl) fun _ => rfl

end Sections

/-! ### Events -/

/-- The key update that the event has built or applied. -/
def Event.announces (hub : HubState) (event : Event) : Option GroupKeyUpdateFrame :=
  event.before.room.bind fun room =>
    match event.op with
    | .anonHello frame nowMs rosterAtMs =>
        match (anonHelloSection hub room event.connId frame nowMs rosterAtMs).2 with
        | .accepted _ update _ => some update
        | .ignored | .rejected _ => none
    | .groupKeyUpdate update =>
        match (groupKeyUpdateSection room event.connId update).2 with
        | .relay => some update
        | .nothing | .refused _ => none
    | _ => none

/-- The rotation that the event has built. -/
def Event.rotates (hub : HubState) (event : Event) : Option AnonGroupKeyRotateFrame :=
  event.before.room.bind fun room =>
    match event.op with
    | .anonHello frame nowMs rosterAtMs =>
        match (anonHelloSection hub room event.connId frame nowMs rosterAtMs).2 with
        | .accepted _ _ rotate => some rotate
        | .ignored | .rejected _ => none
    | .groupKeyRotate nowMs => some (buildAnonGroupKeyRotateFrame hub room nowMs).2
    | _ => none

/-- A rotation is built for the room that its event leaves. -/
theorem Event.rotates_built {hub : HubState} {event : Event} {rotate : AnonGroupKeyRotateFrame}
    (rotates : event.rotates hub = some rotate) :
    ∃ room entered nowMs, event.before.room = some room ∧
      (event.after hub).room = some (buildAnonGroupKeyRotateFrame hub entered nowMs).1 ∧
      entered.permissionsEpoch = room.permissionsEpoch ∧
      rotate = (buildAnonGroupKeyRotateFrame hub entered nowMs).2 := by
  obtain ⟨actor, task, op, state⟩ := event
  obtain ⟨room, found, rotates⟩ := Option.bind_eq_some_iff.mp rotates
  dsimp only at found rotates
  cases op with
  | anonHello frame nowMs rosterAtMs =>
      dsimp only at rotates
      have left : (Event.after hub ⟨actor, task, .anonHello frame nowMs rosterAtMs, state⟩).room =
          some (anonHelloSection hub room actor frame nowMs rosterAtMs).1 :=
        Option.map_eq_some_iff.mpr ⟨room, found, rfl⟩
      have step := anonHelloSection_cases hub room actor frame nowMs rosterAtMs
      revert rotates left step
      generalize anonHelloSection hub room actor frame nowMs rosterAtMs = result
      intro rotates left step
      cases step with
      | refused _ _ refused =>
          split at rotates
          · next accepted => exact absurd accepted (refused _ _ _)
          all_goals cases rotates
      | @announced participant joined entered known applied participants epoch =>
          cases rotates
          exact ⟨room, entered, nowMs, found, left, epoch, rfl⟩
  | groupKeyRotate nowMs =>
      cases rotates
      exact ⟨room, room, nowMs, found, Option.map_eq_some_iff.mpr ⟨room, found, rfl⟩, rfl, rfl⟩
  | _ => cases rotates

/-- A keyed frame is fanned out when the task has built it, when it takes a key back, or
right after it was checked. -/
def Sourced (hub : HubState) (connId : ConnId) (past : List Event) (op : Operation)
    (_ : HubRoom) : Prop :=
  match op with
  | .fanout (.groupKeyUpdate update) =>
      (update.epoch = 0 ∧ update.x25519PubkeyHex = "") ∨
        ∃ event ∈ past, event.announces hub = some update
  | .fanout (.anonGroupKeyRotate rotate) => ∃ event ∈ past, event.rotates hub = some rotate
  | .fanout (.encryptedControl enc) =>
      ∃ checked rest room, past = checked :: rest ∧ checked.op = .read ∧
        checked.before.room = some room ∧ encryptedControlOutcome room connId enc = .relay
  | _ => True

section Handlers

variable {hub : HubState} {connId : ConnId} {world : World} {Value : Type}

theorem sourced_of_routine {op : Operation} (routine : op.isRoutine = true) (past : List Event)
    (state : HubRoom) : Sourced hub connId past op state := by
  cases op with
  | fanout frame =>
      cases frame with
      | groupKeyUpdate | anonGroupKeyRotate | encryptedControl => cases routine
      | _ => trivial
  | _ => trivial

theorem sourced_of_quiet {op : Operation} (quiet : op.isQuiet = true) (past : List Event)
    (state : HubRoom) : Sourced hub connId past op state := by
  cases op with
  | fanout => cases quiet
  | _ => trivial

theorem meets_routine {program : Handler Value}
    (performs : program.Performs fun op => op.isRoutine = true) (world : World) :
    program.Meets (ownContract hub connId (Sourced hub connId)) (fun _ _ => True) world :=
  meets_of_performs performs (fun _ => sourced_of_routine) world

/-- The operation may follow the event. -/
def Follows (hub : HubState) (connId : ConnId) (event : Event) (op : Operation) : Prop :=
  ∀ past state, event ∈ past → Sourced hub connId past op state

theorem plumbing_follows (event : Event) : Plumbing (Follows hub connId event) :=
  ⟨fun _ _ _ => trivial, fun _ _ _ _ => trivial, fun _ _ _ _ _ => trivial,
    fun _ _ _ _ _ => trivial⟩

theorem relays_announced {event : Event} {update : GroupKeyUpdateFrame}
    (announces : event.announces hub = some update) :
    Relays (Follows hub connId event) (.groupKeyUpdate update) :=
  ⟨fun _ _ happened => .inr ⟨event, happened, announces⟩, fun _ _ _ _ => trivial⟩

theorem relays_rotated {event : Event} {rotate : AnonGroupKeyRotateFrame}
    (rotates : event.rotates hub = some rotate) :
    Relays (Follows hub connId event) (.anonGroupKeyRotate rotate) :=
  ⟨fun _ _ happened => ⟨event, happened, rotates⟩, fun _ _ _ _ => trivial⟩

/-- What may follow an event is sourced once it has happened. -/
theorem meets_following {program : Handler Value} {event : Event}
    (performs : program.Performs (Follows hub connId event)) (happened : event ∈ world.own) :
    program.Meets (ownContract hub connId (Sourced hub connId)) (fun _ _ => True) world :=
  meets_after performs (fun _ follows => follows) happened

theorem meets_handleAnonHello (hello : AnonHelloFrame) :
    (handleAnonHello hub connId hello).Meets (ownContract hub connId (Sourced hub connId))
      (fun _ _ => True) world := by
  have refused : ∀ message world, (sendError hub connId message).Meets
      (ownContract hub connId (Sourced hub connId)) (fun _ _ => True) world := fun message =>
    meets_routine (performs_reports (fun _ => Operation.isRoutine_of_isPlain) connId message)
  unfold handleAnonHello
  split
  · exact refused _ world
  · split
    · exact refused _ world
    · refine meets_nowMs fun now => meets_nowMs fun rosterAtMs =>
        meets_critical fun state => ⟨trivial, ?_⟩
      cases found : state.room with
      | none => exact fun _ _ => trivial
      | some room =>
          rw [Option.map_some, Option.getD_some]
          cases outcome : (anonHelloSection hub room connId hello now rosterAtMs).2 with
          | ignored => exact fun _ _ => trivial
          | rejected message => exact refused message _
          | accepted roster update rotate =>
              have announces : (⟨connId, .connection, .anonHello hello now rosterAtMs, state⟩ :
                  Event).announces hub = some update := by
                simp [Event.announces, found, outcome]
              have rotates : (⟨connId, .connection, .anonHello hello now rosterAtMs, state⟩ :
                  Event).rotates hub = some rotate := by
                simp [Event.rotates, found, outcome]
              have plumbing : Plumbing (Follows hub connId
                  ⟨connId, .connection, .anonHello hello now rosterAtMs, state⟩) :=
                plumbing_follows _
              exact meets_following (performs_bind
                (performs_sendFrameTo plumbing fun _ _ _ => trivial) fun _ =>
                  performs_bind (performs_broadcastFrame plumbing (relays_announced announces))
                    fun _ => performs_broadcastFrame plumbing (relays_rotated rotates))
                List.mem_cons_self

theorem meets_handleGroupKeyUpdate (update : GroupKeyUpdateFrame) :
    (handleGroupKeyUpdate hub connId update).Meets (ownContract hub connId (Sourced hub connId))
      (fun _ _ => True) world := by
  refine meets_critical fun state => ⟨trivial, ?_⟩
  cases found : state.room with
  | none => exact fun _ _ => trivial
  | some room =>
      rw [Option.map_some, Option.getD_some]
      cases outcome : (groupKeyUpdateSection room connId update).2 with
      | nothing => exact fun _ _ => trivial
      | refused message =>
          exact meets_routine
            (performs_reports (fun _ => Operation.isRoutine_of_isPlain) connId message) _
      | relay =>
          have announces : (⟨connId, .connection, .groupKeyUpdate update, state⟩ :
              Event).announces hub = some update := by
            simp [Event.announces, found, outcome]
          exact meets_following (performs_broadcastFrame (plumbing_follows _)
            (relays_announced announces)) List.mem_cons_self

/-- The fan-out comes right after the check. -/
theorem meets_handleEncryptedControl (enc : EncryptedControlFrame) :
    (handleEncryptedControl hub connId enc).Meets (ownContract hub connId (Sourced hub connId))
      (fun _ _ => True) world := by
  refine meets_critical fun checked => ⟨trivial, ?_⟩
  cases found : checked.room with
  | none => exact fun _ _ => trivial
  | some room =>
      rw [Option.map_some, Option.getD_some]
      cases outcome : encryptedControlOutcome room connId enc with
      | nothing => exact fun _ _ => trivial
      | refused message =>
          exact meets_routine
            (performs_reports (fun _ => Operation.isRoutine_of_isPlain) connId message) _
      | relay =>
          exact meets_broadcastFrame (fun _ => ⟨_, _, room, rfl, rfl, found, outcome⟩)
            fun _ => sourced_of_quiet

theorem meets_announceAnonymousLeave (handle : Option String) :
    (announceAnonymousLeave hub handle).Meets (ownContract hub connId (Sourced hub connId))
      (fun _ _ => True) world := by
  have rotates : ∀ world, (rotateGroupKey hub).Meets
      (ownContract hub connId (Sourced hub connId)) (fun _ _ => True) world := by
    refine fun world => meets_nowMs fun now => meets_critical fun state => ⟨trivial, ?_⟩
    cases found : state.room with
    | none => exact fun _ _ => trivial
    | some room =>
        have rotates : (⟨connId, .connection, .groupKeyRotate now, state⟩ : Event).rotates hub =
            some (buildAnonGroupKeyRotateFrame hub room now).2 := by
          simp [Event.rotates, found]
        exact meets_following (performs_broadcastFrame (plumbing_follows _)
          (relays_rotated rotates)) List.mem_cons_self
  refine meets_nowMs fun rosterAtMs => meets_critical fun state => ⟨trivial, ?_⟩
  refine (meets_routine (performs_broadcastFrame
    (plumbing_of_every fun _ => Operation.isRoutine_of_isPlain) ⟨rfl, fun _ => rfl⟩) _).bind
      fun _ world _ => ?_
  cases handle with
  | none => exact rotates world
  | some handle =>
      -- The notice takes the key back.
      refine meets_nowMs fun sentAtMs =>
        (meets_broadcastFrame (fun _ => .inl ⟨rfl, rfl⟩) ?_).bind fun _ later _ => rotates later
      exact fun _ => sourced_of_quiet

theorem meets_handleDisconnect :
    (handleDisconnect hub connId).Meets (ownContract hub connId (Sourced hub connId))
      (fun _ _ => True) world := by
  refine meets_nowMs fun deltaAtMs => meets_nowMs fun leftAtMs =>
    meets_critical fun state => ⟨trivial, ?_⟩
  cases state.room with
  | none => exact fun _ _ => trivial
  | some room =>
      rw [Option.map_some]
      dsimp only
      split
      · exact fun _ _ => trivial
      · split
        · exact meets_announceAnonymousLeave _
        · exact meets_routine (performs_announceLeave (fun _ => Operation.isRoutine_of_isPlain) _) _

/-- Every connection task fans out only keyed frames that it has a source for. -/
def keyProtocol (hub : HubState) (connId : ConnId) : Protocol hub connId where
  admits := Sourced hub connId
  resting _ := True
  connects _ _ := trivial
  pongs _ _ _ _ := ⟨trivial, trivial⟩
  serves frame world _ := by
    cases unkeyed : announcesKeys frame with
    | false =>
        have performs : (handleFrame hub connId frame).Performs
            fun op => op.isRoutine = true ∨ SectionOf frame op :=
          performs_unkeyedFrame (fun _ plain => .inl (Operation.isRoutine_of_isPlain plain)) unkeyed
            (fun _ same => same ▸ ⟨.inl rfl, fun _ => .inl rfl⟩) fun _ => .inr
        refine meets_of_performs performs ?_ world
        rintro op (routine | own) past state
        · exact sourced_of_routine routine past state
        · cases own <;> trivial
    | true =>
        cases frame with
        | anonHello hello => exact meets_handleAnonHello hello
        | groupKeyUpdate update => exact meets_handleGroupKeyUpdate update
        | encryptedControl enc => exact meets_handleEncryptedControl enc
        | _ => cases unkeyed
  leaves _ _ := meets_handleDisconnect

end Handlers

end Kaigi.Hub
