import Kaigi.Hub.Duties

/-!
# Duties in anonymous rooms

Whoever enters an anonymous room is sent the roster, and everybody is told the keys
of those who enter, rekey and leave.
-/

set_option autoImplicit false

namespace Kaigi.Hub

open Collections Wire Interleaving

namespace Operation

/-- The operations that may change who is known under which handle with which key. -/
def movesKeys : Operation → Bool
  | .anonHello _ _ _ | .groupKeyUpdate _ | .disconnect _ _ => true
  | _ => false

/-- The handle and the key that the operation puts into the room. -/
def binds (hub : HubState) (connId : ConnId) (op : Operation) (room : RoomState) :
    Option (String × String) :=
  match op with
  | .anonHello frame nowMs rosterAtMs =>
      match (anonHelloSection hub room connId frame nowMs rosterAtMs).2 with
      | .accepted _ _ _ => some (frame.participantHandle, frame.x25519PubkeyHex)
      | .ignored | .rejected _ => none
  | .groupKeyUpdate update =>
      match (groupKeyUpdateSection room connId update).2 with
      | .relay => some (update.participantHandle, update.x25519PubkeyHex)
      | .nothing | .refused _ => none
  | _ => none

/-- The operation takes a connection out of an anonymous room that others stay in. -/
def leavesAnonymously (connId : ConnId) (op : Operation) (room : RoomState) : Bool :=
  match op with
  | .disconnect deltaAtMs leftAtMs =>
      let outcome := (disconnectSection room connId deltaAtMs leftAtMs).2
      !outcome.removeRoom && outcome.anonymousMode
  | _ => false

/-- The operation calls for telling the target about the handle: whoever enters is
told everything, and so is everybody when somebody leaves. -/
def callsForKey (hub : HubState) (connId : ConnId) (op : Operation) (room : RoomState)
    (target : ConnId) (handle : String) : Prop :=
  (∃ named key, op.binds hub connId room = some (named, key) ∧
    (op.isAnonHello = true ∧ target = connId ∨ handle = named)) ∨
  op.leavesAnonymously connId room = true

end Operation

/-- The frame says which key goes with the handle. -/
def speaksOfKey (frame : KaigiFrame) (handle : String) : Prop :=
  match frame with
  | .anonRoster _ => True
  | .groupKeyUpdate update => handle = update.participantHandle
  | _ => False

/-- The frames whose handlers move keys. -/
def asksForKeys : KaigiFrame → Bool
  | .anonHello _ | .groupKeyUpdate _ => true
  | _ => false

theorem plumbing_movesKeys : Plumbing fun op => op.movesKeys = false :=
  ⟨rfl, fun _ => rfl, fun _ _ => rfl, fun _ _ => rfl⟩

theorem relays_movesKeys (frame : KaigiFrame) : Relays (fun op => op.movesKeys = false) frame :=
  ⟨rfl, fun _ => rfl⟩

/-- Everybody in an anonymous room is told the keys that go with the handles. -/
def keyDuty (hub : HubState) : Duty String where
  asks := Operation.movesKeys
  plumbing := plumbing_movesKeys
  relays := relays_movesKeys
  connect _ := rfl
  pong _ _ := rfl
  calls event target handle := ∃ room, event.before.room = some room ∧
    event.op.callsForKey hub event.connId room target handle
  calls_asks := by
    rintro ⟨connId, task, op, state⟩ target handle ⟨room, _, ⟨_, _, binds, _⟩ | leaves⟩
    · cases op with
      | anonHello | groupKeyUpdate => rfl
      | _ => cases binds
    · cases op with
      | disconnect => rfl
      | _ => cases leaves
  speaks := speaksOfKey

/-- The roster that a leave announces. -/
def rosterShown (room : Option RoomState) (rosterAtMs : Nat) : AnonRosterFrame :=
  (room.map fun room => anonRosterFrameLocked room rosterAtMs).getD ⟨rosterAtMs, []⟩

/-- The step of a handler after which it goes on: what it shows of the keys can be encoded, and
it looks up a connection that the room has. -/
def Event.SparesKeys (hub : HubState) (event : Event) : Prop :=
  match event.op with
  | .lookup target => target ∈ event.before.connections
  | .anonHello hello nowMs rosterAtMs => ∀ room roster update rotate,
      event.before.room = some room →
      (anonHelloSection hub room event.connId hello nowMs rosterAtMs).2 =
        .accepted roster update rotate →
      (encodable hub (.anonRoster roster)).isSome = true ∧
        (encodable hub (.groupKeyUpdate update)).isSome = true
  | .groupKeyUpdate update => (encodable hub (.groupKeyUpdate update)).isSome = true
  | .read => ∀ rosterAtMs,
      (encodable hub (.anonRoster (rosterShown event.before.room rosterAtMs))).isSome = true
  | _ => True

/-- Where a connection task may fail: it owes no key to anybody, or a step has stopped it. -/
abbrev KeyExcused (hub : HubState) : List Event → Prop :=
  Excused (keyDuty hub).Settled (Event.SparesKeys hub)

/-! ### Handlers that move no keys -/

section Transparent

variable {hub : HubState} {connId : ConnId}

/-- The program moves no keys. -/
abbrev LeavesKeys {Value : Type} (program : Handler Value) : Prop :=
  program.Performs fun op => op.movesKeys = false

theorem leavesKeys_sendFrameTo (target : ConnId) (frame : KaigiFrame) :
    LeavesKeys (sendFrameTo hub target frame) :=
  performs_sendFrameTo plumbing_movesKeys rfl

theorem leavesKeys_broadcastFrame (frame : KaigiFrame) :
    LeavesKeys (broadcastFrame hub frame) :=
  performs_broadcastFrame plumbing_movesKeys (relays_movesKeys frame)

theorem leavesKeys_broadcastRoomConfig : LeavesKeys (broadcastRoomConfig hub) :=
  performs_broadcastRoomConfig plumbing_movesKeys fun _ => relays_movesKeys _

theorem leavesKeys_broadcastPermissionsSnapshots :
    LeavesKeys (broadcastPermissionsSnapshots hub) :=
  performs_broadcastPermissionsSnapshots plumbing_movesKeys fun _ _ => rfl

theorem leavesKeys_announceJoin (snapshot : ParticipantSnapshot)
    (presenceDelta : ParticipantPresenceDeltaFrame) :
    LeavesKeys (announceJoin hub connId snapshot presenceDelta) :=
  performs_bind performs_nowMs fun _ => performs_bind (performs_critical rfl) fun _ =>
    performs_bind (leavesKeys_sendFrameTo _ _) fun _ =>
      performs_bind (leavesKeys_broadcastFrame _) fun _ =>
        performs_bind (leavesKeys_broadcastFrame _) fun _ =>
          performs_bind leavesKeys_broadcastRoomConfig fun _ =>
            performs_bind (performs_critical rfl) fun _ =>
              performs_bind (leavesKeys_sendFrameTo _ _) fun _ =>
                leavesKeys_broadcastPermissionsSnapshots

theorem leavesKeys_handleHello (frame : HelloFrame) :
    LeavesKeys (handleHello hub connId frame) := by
  unfold handleHello
  split
  · exact leavesKeys_sendFrameTo connId _
  · refine performs_bind performs_nowMs fun snapshotAtMs => performs_bind performs_nowMs
      fun deltaAtMs => performs_bind (performs_critical rfl) fun outcome => ?_
    cases outcome with
    | none => trivial
    | some outcome =>
        cases outcome with
        | participantMissing => trivial
        | modeConflict => exact leavesKeys_sendFrameTo connId _
        | denied reason => exact leavesKeys_sendFrameTo connId _
        | waiting notice =>
            exact performs_bind (performs_notifyModerators plumbing_movesKeys notice) fun _ =>
              leavesKeys_sendFrameTo connId _
        | joined snapshot presenceDelta =>
            exact performs_when (leavesKeys_sendFrameTo connId _) fun _ =>
              leavesKeys_announceJoin snapshot presenceDelta

theorem leavesKeys_announceRoleChange (frame : KaigiFrame) (outcome : RoleMutationOutcome)
    (presenceDelta : Option ParticipantPresenceDeltaFrame) :
    LeavesKeys (announceRoleChange hub frame outcome presenceDelta) := by
  refine performs_bind (leavesKeys_broadcastFrame frame) fun _ =>
    performs_when leavesKeys_broadcastRoomConfig fun _ =>
      performs_when leavesKeys_broadcastPermissionsSnapshots fun _ => ?_
  cases presenceDelta with
  | none => trivial
  | some delta => exact leavesKeys_broadcastFrame _

theorem leavesKeys_handleRoleGrant (grant : RoleGrantFrame) :
    LeavesKeys (handleRoleGrant hub connId grant) := by
  refine performs_unlessAnonymous plumbing_movesKeys <| performs_bind performs_nowMs fun _ =>
    performs_bind (performs_critical rfl) fun outcome => ?_
  rcases outcome with _ | (message | ⟨outcome, presenceDelta⟩)
  · trivial
  · exact leavesKeys_sendFrameTo connId _
  · exact leavesKeys_announceRoleChange _ outcome presenceDelta

theorem leavesKeys_handleRoleRevoke (revoke : RoleRevokeFrame) :
    LeavesKeys (handleRoleRevoke hub connId revoke) := by
  refine performs_unlessAnonymous plumbing_movesKeys <| performs_bind performs_nowMs fun _ =>
    performs_bind (performs_critical rfl) fun outcome => ?_
  rcases outcome with _ | (message | ⟨outcome, presenceDelta⟩)
  · trivial
  · exact leavesKeys_sendFrameTo connId _
  · exact leavesKeys_announceRoleChange _ outcome presenceDelta

theorem leavesKeys_processModerationFrame (moderation : ModerationFrame)
    (auditFrame : KaigiFrame) :
    LeavesKeys (processModerationFrame hub connId moderation auditFrame) := by
  refine performs_unlessAnonymous plumbing_movesKeys <| performs_bind performs_nowMs fun _ =>
    performs_bind performs_nowMs fun _ => performs_bind (performs_critical rfl) fun outcome => ?_
  rcases outcome with _ | (message | outcome)
  · trivial
  · exact leavesKeys_sendFrameTo connId _
  · dsimp only
    split
    · exact leavesKeys_sendFrameTo connId _
    · exact performs_bind (leavesKeys_broadcastFrame auditFrame) fun _ =>
        performs_bind (.each fun _ _ => leavesKeys_broadcastFrame _) fun _ =>
          performs_bind (.each fun _ _ => leavesKeys_broadcastFrame _) fun _ =>
            performs_bind (.each fun _ _ => leavesKeys_broadcastFrame _) fun _ =>
              performs_bind (.each fun _ _ => performs_sendAdmissionFrames plumbing_movesKeys
                  (fun _ => relays_movesKeys _) (fun _ => relays_movesKeys _)
                    fun _ => relays_movesKeys _) fun _ =>
                performs_when leavesKeys_broadcastPermissionsSnapshots fun _ =>
                  performs_dismissals plumbing_movesKeys moderation outcome fun _ => rfl

theorem leavesKeys_handleModerationSigned (signed : ModerationSignedFrame) :
    LeavesKeys (handleModerationSigned hub connId signed) :=
  performs_unlessAnonymous plumbing_movesKeys <| performs_checked plumbing_movesKeys <|
    leavesKeys_processModerationFrame _ _

end Transparent

/-! ### Handlers that move keys -/

section Anonymous

variable {hub : HubState} {connId : ConnId}

/-- The update that announces an anonymous hello names its handle. -/
theorem anonHelloSection_update {room : RoomState} {hello : AnonHelloFrame}
    {nowMs rosterAtMs : Nat} {roster : AnonRosterFrame} {update : GroupKeyUpdateFrame}
    {rotate : AnonGroupKeyRotateFrame}
    (accepted : (anonHelloSection hub room connId hello nowMs rosterAtMs).2 =
      .accepted roster update rotate) : update.participantHandle = hello.participantHandle := by
  have announced : ∀ enter : RoomState → RoomState,
      (announceAnonHello hub room connId hello nowMs rosterAtMs enter).2 =
        .accepted roster update rotate → update.participantHandle = hello.participantHandle := by
    intro enter accepted
    unfold announceAnonHello at accepted
    split at accepted
    · cases accepted
    · split at accepted
      · cases accepted
      · cases accepted
        rfl
  unfold anonHelloSection at accepted
  split at accepted
  · cases accepted
  · split at accepted
    · cases accepted
    · split at accepted
      · split at accepted
        · cases accepted
        · split at accepted
          · cases accepted
          · exact announced _ accepted
      · exact announced _ accepted

variable {mayFail : List Event → Prop}

/-- A program that moves no keys settles what was not called for. -/
theorem settles_uncalled {Value : Type} {program : Handler Value}
    {before after : ConnId → String → Prop}
    (stops : ∀ past, (keyDuty hub).Settled past → mayFail past) (leaves : LeavesKeys program)
    (uncalled : ∀ target handle, ¬ before target handle) :
    (keyDuty hub).Settles hub connId mayFail before after program := by
  have settles : (keyDuty hub).Settles hub connId mayFail (fun _ _ => False) (fun _ _ => False)
      program := Duty.settles_of_performs leaves stops
  exact settles.mono uncalled fun _ _ => False.elim

/-- What can be encoded is sent. -/
theorem unsent_of_spared {frame : KaigiFrame} {spared : Prop}
    (encodes : spared → (encodable hub frame).isSome = true)
    (sends : spared ∨ ∀ past, mayFail past) (unsent : encodable hub frame = none)
    (past : List Event) : mayFail past := by
  rcases sends with holds | free
  · have sent := encodes holds
    rw [unsent] at sent
    cases sent
  · exact free past

/-- What an operation in this room calls for. -/
theorem callsForKey_of_calls {op : Operation} {state : HubRoom} {room : RoomState}
    {target : ConnId} {handle : String} (found : state.room = some room)
    (called : False ∨ (keyDuty hub).calls ⟨connId, .connection, op, state⟩ target handle) :
    op.callsForKey hub connId room target handle := by
  obtain ⟨current, present, calls⟩ := called.resolve_left id
  rw [found] at present
  cases present
  exact calls

/-- Without a room an operation calls for nothing. -/
theorem uncalled_of_closed {op : Operation} {state : HubRoom} (closed : state.room = none)
    (target : ConnId) (handle : String) :
    ¬ (False ∨ (keyDuty hub).calls ⟨connId, .connection, op, state⟩ target handle) := by
  rintro (impossible | ⟨room, found, _⟩)
  · exact impossible
  · rw [closed] at found
    cases found

/-- An operation that neither binds a key nor leaves calls for nothing. -/
theorem uncalled_of_silent {op : Operation} {state : HubRoom} {room : RoomState}
    (found : state.room = some room) (silent : op.binds hub connId room = none)
    (stays : op.leavesAnonymously connId room = false) (target : ConnId) (handle : String) :
    ¬ (False ∨ (keyDuty hub).calls ⟨connId, .connection, op, state⟩ target handle) := by
  intro called
  rcases callsForKey_of_calls found called with ⟨_, _, binds, _⟩ | leaves
  · rw [silent] at binds
    cases binds
  · rw [stays] at leaves
    cases leaves

/-- The roster answers the newcomer, the update everybody else. -/
theorem settles_admission {state : HubRoom} {room : RoomState} {hello : AnonHelloFrame}
    {now rosterAtMs : Nat} {roster : AnonRosterFrame} {update : GroupKeyUpdateFrame}
    {rotate : AnonGroupKeyRotateFrame} (found : state.room = some room)
    (outcome : (anonHelloSection hub room connId hello now rosterAtMs).2 =
      .accepted roster update rotate)
    (mayStop : (keyDuty hub).MayStop (Event.SparesKeys hub) mayFail)
    (spared : Event.SparesKeys hub ⟨connId, .connection, .anonHello hello now rosterAtMs, state⟩ ∨
      ∀ past, mayFail past) :
    (keyDuty hub).Settles hub connId mayFail (fun target handle => False ∨ (keyDuty hub).calls
        ⟨connId, .connection, .anonHello hello now rosterAtMs, state⟩ target handle)
      (fun _ _ => False) (do
        sendFrameTo hub connId (.anonRoster roster)
        broadcastFrame hub (.groupKeyUpdate update)
        broadcastFrame hub (.anonGroupKeyRotate rotate)) := by
  have everybody : ∀ target handle, ¬ (((False ∨ (keyDuty hub).calls
      ⟨connId, .connection, .anonHello hello now rosterAtMs, state⟩ target handle) ∧
      ¬ (target = connId ∧ (keyDuty hub).speaks (.anonRoster roster) handle)) ∧
      ¬ (keyDuty hub).speaks (.groupKeyUpdate update) handle) := by
    rintro target handle ⟨⟨called, unsent⟩, untold⟩
    rcases callsForKey_of_calls found called with ⟨named, key, binds, other⟩ | leaves
    · simp only [Operation.binds, outcome, Option.some.injEq, Prod.mk.injEq] at binds
      rcases other with ⟨_, own⟩ | same
      · exact unsent ⟨own, trivial⟩
      · exact untold (same.trans (binds.1.symm.trans (anonHelloSection_update outcome).symm))
    · cases leaves
  have rosters := unsent_of_spared
    (fun spares => (spares room roster update rotate found outcome).1) spared
  have updates := unsent_of_spared
    (fun spares => (spares room roster update rotate found outcome).2) spared
  exact (Duty.settles_sendFrameTo connId _ (fun unsent past _ => rosters unsent past)
    fun _ _ absent _ => mayStop.stopped _ _ absent).bind fun _ =>
      (Duty.settles_broadcastFrame _ (fun unsent past _ => updates unsent past)
        fun past told => mayStop.settled past (told.mono everybody)).bind fun _ =>
          settles_uncalled mayStop.settled (leavesKeys_broadcastFrame _) everybody

theorem settles_handleAnonHello (hello : AnonHelloFrame) :
    (keyDuty hub).Settles hub connId (KeyExcused hub) (fun _ _ => False) (fun _ _ => False)
      (handleAnonHello hub connId hello) := by
  have refused : ∀ message, (keyDuty hub).Settles hub connId (KeyExcused hub) (fun _ _ => False)
      (fun _ _ => False) (sendError hub connId message) := fun message =>
    settles_uncalled Duty.mayStop_excused.settled (leavesKeys_sendFrameTo connId _) fun _ _ => id
  unfold handleAnonHello
  split
  · exact refused _
  · split
    · exact refused _
    · refine Duty.settles_nowMs.bind fun now => Duty.settles_nowMs.bind fun rosterAtMs =>
        Duty.settles_showing (fun state => ?_) fun state mayFail mayStop spared => ?_
      · cases (state.room.map fun room =>
          (anonHelloSection hub room connId hello now rosterAtMs).2).getD .ignored with
        | ignored => trivial
        | rejected message => exact leavesKeys_sendFrameTo connId _
        | accepted roster update rotate =>
            exact performs_bind (leavesKeys_sendFrameTo connId _) fun _ =>
              performs_bind (leavesKeys_broadcastFrame _) fun _ => leavesKeys_broadcastFrame _
      · cases found : state.room with
        | none => exact settles_uncalled mayStop.settled trivial (uncalled_of_closed found)
        | some room =>
            rw [Option.map_some, Option.getD_some]
            cases outcome : (anonHelloSection hub room connId hello now rosterAtMs).2 with
            | ignored =>
                refine settles_uncalled mayStop.settled trivial (uncalled_of_silent found ?_ rfl)
                simp only [Operation.binds, outcome]
            | rejected message =>
                refine settles_uncalled mayStop.settled (leavesKeys_sendFrameTo connId _)
                  (uncalled_of_silent found ?_ rfl)
                simp only [Operation.binds, outcome]
            | accepted roster update rotate =>
                exact settles_admission found outcome mayStop spared

theorem settles_handleGroupKeyUpdate (update : GroupKeyUpdateFrame) :
    (keyDuty hub).Settles hub connId (KeyExcused hub) (fun _ _ => False) (fun _ _ => False)
      (handleGroupKeyUpdate hub connId update) := by
  refine Duty.settles_showing (fun state => ?_) fun state mayFail mayStop spared => ?_
  · cases (state.room.map fun room => (groupKeyUpdateSection room connId update).2).getD
      .nothing with
    | nothing => trivial
    | refused message => exact leavesKeys_sendFrameTo connId _
    | relay => exact leavesKeys_broadcastFrame _
  · cases found : state.room with
    | none => exact settles_uncalled mayStop.settled trivial (uncalled_of_closed found)
    | some room =>
        rw [Option.map_some, Option.getD_some]
        cases outcome : (groupKeyUpdateSection room connId update).2 with
        | nothing =>
            refine settles_uncalled mayStop.settled trivial (uncalled_of_silent found ?_ rfl)
            simp only [Operation.binds, outcome]
        | refused message =>
            refine settles_uncalled mayStop.settled (leavesKeys_sendFrameTo connId _)
              (uncalled_of_silent found ?_ rfl)
            simp only [Operation.binds, outcome]
        | relay =>
            have everybody : ∀ target handle, ¬ ((False ∨ (keyDuty hub).calls
                ⟨connId, .connection, .groupKeyUpdate update, state⟩ target handle) ∧
                ¬ (keyDuty hub).speaks (.groupKeyUpdate update) handle) := by
              rintro target handle ⟨called, untold⟩
              rcases callsForKey_of_calls found called with ⟨named, key, binds, other⟩ | leaves
              · simp only [Operation.binds, outcome, Option.some.injEq, Prod.mk.injEq] at binds
                rcases other with ⟨hello, _⟩ | same
                · cases hello
                · exact untold (same.trans binds.1.symm)
              · cases leaves
            have updates := unsent_of_spared (fun spares => spares) spared
            exact (Duty.settles_broadcastFrame _ (fun unsent past _ => updates unsent past)
              fun past told => mayStop.settled past (told.mono everybody)).mono
                (fun _ _ called => called) everybody

/-- A roster for everybody settles what is owed, whatever quiet part comes after it. -/
theorem settles_rosterThen {rest : Handler Unit} (quiet : LeavesKeys rest)
    (before : ConnId → String → Prop) :
    (keyDuty hub).Settles hub connId (KeyExcused hub) before (fun _ _ => False) (do
      let rosterAtMs ← nowMs
      let roster ← critical .read fun room => rosterShown room rosterAtMs
      broadcastFrame hub (.anonRoster roster)
      rest) := by
  refine Duty.settles_nowMs.bind fun rosterAtMs => Duty.settles_showing
    (fun _ => performs_bind (leavesKeys_broadcastFrame _) fun _ => quiet)
      fun state mayFail mayStop spared => ?_
  have everybody : ∀ target handle, ¬ ((before target handle ∨ (keyDuty hub).calls
      ⟨connId, .connection, .read, state⟩ target handle) ∧
      ¬ (keyDuty hub).speaks (.anonRoster (rosterShown state.room rosterAtMs)) handle) :=
    fun _ _ untold => untold.2 trivial
  have rosters := unsent_of_spared (fun spares => spares rosterAtMs) spared
  exact (Duty.settles_broadcastFrame _ (fun unsent past _ => rosters unsent past)
    fun past told => mayStop.settled past (told.mono everybody)).bind fun _ =>
      settles_uncalled mayStop.settled quiet everybody

theorem settles_announceAnonymousLeave (leftParticipantHandle : Option String)
    (before : ConnId → String → Prop) :
    (keyDuty hub).Settles hub connId (KeyExcused hub) before (fun _ _ => False)
      (announceAnonymousLeave hub leftParticipantHandle) := by
  have rotates : LeavesKeys (rotateGroupKey hub) :=
    performs_announceRotate plumbing_movesKeys (fun _ => rfl) fun _ _ => relays_movesKeys _
  cases leftParticipantHandle with
  | none => exact settles_rosterThen rotates before
  | some handle =>
      have tells : LeavesKeys (do
          let sentAtMs ← nowMs
          broadcastFrame hub (.groupKeyUpdate ⟨sentAtMs, handle, "", 0⟩)
          rotateGroupKey hub : Handler Unit) :=
        performs_bind performs_nowMs fun _ =>
          performs_bind (leavesKeys_broadcastFrame _) fun _ => rotates
      exact settles_rosterThen tells before

theorem settles_handleDisconnect :
    (keyDuty hub).Settles hub connId (KeyExcused hub) (fun _ _ => False) (fun _ _ => False)
      (handleDisconnect hub connId) := by
  have stops : ∀ past, (keyDuty hub).Settled past → KeyExcused hub past :=
    Duty.mayStop_excused.settled
  refine Duty.settles_nowMs.bind fun deltaAtMs => Duty.settles_nowMs.bind fun leftAtMs =>
    Duty.settles_critical fun state => ?_
  cases found : state.room with
  | none => exact settles_uncalled stops trivial (uncalled_of_closed found)
  | some room =>
      rw [Option.map_some]
      dsimp only
      split
      · next removed =>
          refine settles_uncalled stops trivial (uncalled_of_silent found rfl ?_)
          simp [Operation.leavesAnonymously, removed]
      · split
        · exact settles_announceAnonymousLeave _ _
        · next transparent =>
            refine settles_uncalled stops ?_ (uncalled_of_silent found rfl ?_)
            · have moved : LeavesKeys (if (disconnectSection room connId deltaAtMs
                  leftAtMs).2.hostChanged = true then (do
                    broadcastRoomConfig hub
                    broadcastPermissionsSnapshots hub) else pure () : Handler Unit) := by
                split
                · exact performs_bind leavesKeys_broadcastRoomConfig fun _ =>
                    leavesKeys_broadcastPermissionsSnapshots
                · trivial
              cases (disconnectSection room connId deltaAtMs leftAtMs).2.leftParticipantId with
              | none => exact moved
              | some participantId =>
                  refine performs_bind performs_nowMs fun _ =>
                    performs_bind (leavesKeys_broadcastFrame _) fun _ => ?_
                  cases (disconnectSection room connId deltaAtMs leftAtMs).2.presenceDelta with
                  | none => exact moved
                  | some delta => exact performs_bind (leavesKeys_broadcastFrame _) fun _ => moved
            · simp [Operation.leavesAnonymously, transparent]

theorem movesKeys_of_isOrdinary {op : Operation} (ordinary : op.isOrdinary = true) :
    op.movesKeys = false := by
  cases op with
  | anonHello | groupKeyUpdate | disconnect => cases ordinary
  | _ => rfl

theorem leavesKeys_handleFrame {frame : KaigiFrame}
    (other : asksForKeys frame = false) : LeavesKeys (handleFrame hub connId frame) := by
  cases request : isRequest frame with
  | false => exact (ordinary_handleFrame request).mono fun _ => movesKeys_of_isOrdinary
  | true =>
      cases frame with
      | anonHello | groupKeyUpdate => cases other
      | hello hello => exact leavesKeys_handleHello hello
      | roomConfigUpdate update =>
          exact performs_handleRoomConfigUpdate plumbing_movesKeys (fun _ => rfl) fun _ =>
            relays_movesKeys _
      | roleGrant grant => exact leavesKeys_handleRoleGrant grant
      | roleRevoke revoke => exact leavesKeys_handleRoleRevoke revoke
      | sessionPolicy update =>
          exact performs_handleSessionPolicy plumbing_movesKeys rfl (fun _ => relays_movesKeys _)
            fun _ _ => rfl
      | moderation moderation => exact leavesKeys_processModerationFrame _ _
      | moderationSigned signed => exact leavesKeys_handleModerationSigned signed
      | _ => cases request

/-- Every handler settles what the keys call for, as long as no step stops it. -/
theorem keyDuty_kept (hub : HubState) (connId : ConnId) :
    (keyDuty hub).Kept hub connId (KeyExcused hub) where
  serves frame := by
    cases other : asksForKeys frame with
    | false =>
        exact settles_uncalled Duty.mayStop_excused.settled (leavesKeys_handleFrame other)
          fun _ _ => id
    | true =>
        cases frame with
        | anonHello hello => exact settles_handleAnonHello hello
        | groupKeyUpdate update => exact settles_handleGroupKeyUpdate update
        | _ => cases other
  leaves := settles_handleDisconnect
  stops := Duty.mayStop_excused.settled

end Anonymous

end Kaigi.Hub
