import Kaigi.Hub.HandlerOperations
import Kaigi.Hub.PresenceNumbers

/-!
# Announcements of the presence deltas

A presence delta is numbered in one critical section and put into the queues in
later ones. The task that has numbered it fans it out once, and sends it to every
recipient once.
-/

set_option autoImplicit false

namespace Kaigi.Hub

open Collections Wire Interleaving Replication

namespace Operation

def fansOutPresence : Operation → Option ParticipantPresenceDeltaFrame
  | .fanout (.participantPresenceDelta delta) => some delta
  | _ => none

def sendsPresence : Operation → Option (ConnId × ParticipantPresenceDeltaFrame)
  | .trySend target (.binary (.participantPresenceDelta delta)) => some (target, delta)
  | _ => none

/-- The operation neither numbers nor announces a presence delta. -/
def ignoresPresence (op : Operation) : Bool :=
  !op.numbersPresence && op.fansOutPresence.isNone && op.sendsPresence.isNone

end Operation

theorem fansOutPresence_of_fansOut {op : Operation} (fans : op.fansOut = none) :
    op.fansOutPresence = none := by
  cases op with
  | fanout => cases fans
  | _ => rfl

theorem fansOutPresence_eq_some {op : Operation} {delta : ParticipantPresenceDeltaFrame} :
    op.fansOutPresence = some delta ↔ op.fansOut = some (.participantPresenceDelta delta) := by
  constructor
  · intro fans
    unfold Operation.fansOutPresence at fans
    split at fans <;> cases fans
    rfl
  · intro fans
    unfold Operation.fansOut at fans
    split at fans <;> cases fans
    rfl

/-- The deltas that a task has numbered last and not yet fanned out. -/
def undelivered (hub : HubState) : List Event → List ParticipantPresenceDeltaFrame
  | [] => []
  | event :: past =>
      match event.op.fansOutPresence, event.presenceDeltas hub with
      | some _, _ => (undelivered hub past).tail
      | none, [] => undelivered hub past
      | none, deltas => deltas

/-- The delta that a task is sending, with the state its recipients were taken from
and those that it has sent it to. -/
def sending (hub : HubState) :
    List Event → Option (ParticipantPresenceDeltaFrame × HubRoom × List ConnId)
  | [] => none
  | event :: past =>
      match event.op.fansOut, event.presenceDeltas hub, event.op.sendsPresence with
      | some (.participantPresenceDelta delta), _, _ => some (delta, event.before, [])
      | some _, _, _ => none
      | none, [], some (target, _) =>
          (sending hub past).map fun (delta, taken, served) => (delta, taken, target :: served)
      | none, [], none => sending hub past
      | none, _, _ => none

/-- A task fans out the deltas that it has numbered, in their order, and sends each of
them once to everybody who is in the room then. -/
structure AnnouncesOwn (hub : HubState) (past : List Event) (op : Operation) : Prop where
  fanout : ∀ delta, op.fansOutPresence = some delta → (undelivered hub past).head? = some delta
  send : ∀ target delta, op.sendsPresence = some (target, delta) →
    ∃ taken served, sending hub past = some (delta, taken, served) ∧
      target ∈ taken.connections ∧ target ∉ served

section Announcing

variable {hub : HubState} {connId : ConnId} {Value Result : Type}

theorem presenceDeltas_of_quiet {op : Operation} (quiet : op.numbersPresence = false)
    (task : Task) (state : HubRoom) :
    (⟨connId, task, op, state⟩ : Event).presenceDeltas hub = [] := by
  unfold Event.presenceDeltas
  cases state.room with
  | none => rfl
  | some room => cases op <;> first | rfl | cases quiet

theorem ignoresPresence_iff {op : Operation} : op.ignoresPresence = true ↔
    op.numbersPresence = false ∧ op.fansOutPresence = none ∧ op.sendsPresence = none := by
  simp [Operation.ignoresPresence, and_assoc]

theorem announcesOwn_of_ignores {op : Operation} (ignores : op.ignoresPresence = true)
    (past : List Event) : AnnouncesOwn hub past op := by
  obtain ⟨_, fanout, send⟩ := ignoresPresence_iff.mp ignores
  constructor
  · rw [fanout]
    nofun
  · rw [send]
    nofun

theorem undelivered_ignores {op : Operation} (ignores : op.ignoresPresence = true) (task : Task)
    (state : HubRoom) (past : List Event) :
    undelivered hub (⟨connId, task, op, state⟩ :: past) = undelivered hub past := by
  obtain ⟨quiet, fanout, _⟩ := ignoresPresence_iff.mp ignores
  conv_lhs => unfold undelivered
  rw [presenceDeltas_of_quiet quiet]
  dsimp only
  rw [fanout]

/-- If the program is started when the deltas `before` are to be fanned out next, it keeps
the discipline, and at its end the deltas `after` are. -/
def Delivers (hub : HubState) (connId : ConnId) (before after : List ParticipantPresenceDeltaFrame)
    (program : Handler Value) : Prop :=
  ∀ world, before <+: undelivered hub world.own →
    program.Meets (ownContract hub connId fun past op _ => AnnouncesOwn hub past op)
      (fun _ later => after <+: undelivered hub later.own) world

variable {before middle after : List ParticipantPresenceDeltaFrame}

theorem Delivers.bind {program : Handler Value} {next : Value → Handler Result}
    (first : Delivers hub connId before middle program)
    (second : ∀ value, Delivers hub connId middle after (next value)) :
    Delivers hub connId before after (program >>= next) :=
  fun world start => (first world start).bind fun value later reached => second value later reached

theorem delivers_done (value : Value) :
    Delivers hub connId before before (.done value : Handler Value) := by
  intro world start later own
  rw [own]
  exact start

/-- A statement made only under a condition, before the rest of the program. -/
theorem Delivers.when {condition : Prop} [Decidable condition] {body : Handler Unit}
    {next : Unit → Handler Value} (first : Delivers hub connId before before body)
    (rest : ∀ done, Delivers hub connId before after (next done)) :
    Delivers hub connId before after (if condition then body >>= next else next ()) := by
  split
  · exact first.bind rest
  · exact rest ()

theorem delivers_of_performs {program : Handler Value}
    (performs : program.Performs fun op => op.ignoresPresence = true) :
    Delivers hub connId before before program := by
  refine performs.keeps (fun _ _ own start => ?_) (fun op world ignores start => ?_)
    fun _ _ _ => trivial
  · rw [own]
    exact start
  · refine ⟨announcesOwn_of_ignores ignores _, ?_⟩
    change before <+: undelivered hub (_ :: world.own)
    rw [undelivered_ignores ignores]
    exact start

theorem delivers_nowMs : Delivers hub connId before before nowMs :=
  delivers_of_performs performs_nowMs

theorem plumbing_ignoresPresence : Plumbing fun op => op.ignoresPresence = true :=
  ⟨rfl, fun _ => rfl, fun _ _ => rfl, fun _ _ => rfl⟩

theorem relays_ignoresPresence {frame : KaigiFrame}
    (other : (Operation.fanout frame).ignoresPresence = true) :
    Relays (fun op => op.ignoresPresence = true) frame := by
  cases frame with
  | participantPresenceDelta => cases other
  | _ => exact ⟨rfl, fun _ => rfl⟩

theorem ignoresPresence_of_ordinary {op : Operation} (ordinary : op.isOrdinary = true) :
    op.ignoresPresence = true := by
  cases op with
  | fanout frame => cases frame <;> first | rfl | cases ordinary
  | trySend target message =>
      cases message with
      | binary frame => cases frame <;> first | rfl | cases ordinary
      | pong | close => rfl
  | _ => first | rfl | cases ordinary

theorem delivers_ordinary {program : Handler Value} (ordinary : Ordinary program) :
    Delivers hub connId before before program :=
  delivers_of_performs (ordinary.mono fun _ => ignoresPresence_of_ordinary)

theorem undelivered_numbered {op : Operation} (fans : op.fansOut = none) (task : Task)
    (state : HubRoom) (past : List Event) :
    state.room.elim [] (op.presenceDeltas hub connId) <+:
      undelivered hub (⟨connId, task, op, state⟩ :: past) := by
  unfold undelivered
  dsimp only
  rw [fansOutPresence_of_fansOut fans]
  unfold Event.presenceDeltas
  split
  · next same => cases same
  · next none =>
      rw [none]
      exact List.nil_prefix
  · exact List.prefix_rfl

/-- The critical section that numbers the deltas to be fanned out next. -/
theorem delivers_critical {op : Operation} {view : Option RoomState → Value}
    {next : Value → Handler Result} (fans : op.fansOut = none) (sends : op.sendsPresence = none)
    (rest : ∀ state : HubRoom, Delivers hub connId
      (state.room.elim [] (op.presenceDeltas hub connId)) after (next (view state.room))) :
    Delivers hub connId before after (critical op view >>= next) := by
  intro world _ world' _
  refine ⟨⟨?_, ?_⟩, rest world'.shared _ (undelivered_numbered fans _ _ _)⟩
  · rw [fansOutPresence_of_fansOut fans]
    nofun
  · rw [sends]
    nofun

/-- The state of a task that is sending a delta, after one more send. -/
theorem sending_sent {target : ConnId} {delta : ParticipantPresenceDeltaFrame} (task : Task)
    (state : HubRoom) (past : List Event) :
    sending hub
      (⟨connId, task, .trySend target (.binary (.participantPresenceDelta delta)), state⟩ :: past) =
        (sending hub past).map fun (delta, taken, served) => (delta, taken, target :: served) := by
  have silent : (⟨connId, task, .trySend target (.binary (.participantPresenceDelta delta)),
      state⟩ : Event).presenceDeltas hub = [] := presenceDeltas_of_quiet rfl task state
  conv_lhs => unfold sending
  rw [silent]
  rfl

theorem undelivered_sent {target : ConnId} {message : Message} (task : Task)
    (state : HubRoom) (past : List Event) :
    undelivered hub (⟨connId, task, .trySend target message, state⟩ :: past) =
      undelivered hub past := by
  have silent : (⟨connId, task, .trySend target message, state⟩ : Event).presenceDeltas hub = [] :=
    presenceDeltas_of_quiet rfl task state
  conv_lhs => unfold undelivered
  rw [silent]
  rfl

theorem delivers_fanoutTo {delta : ParticipantPresenceDeltaFrame} {taken : HubRoom}
    {targets served : List ConnId} {dropped : Nat} {world : World}
    (start : before <+: undelivered hub world.own)
    (sent : sending hub world.own = some (delta, taken, served))
    (among : ∀ target ∈ targets, target ∈ taken.connections ∧ target ∉ served)
    (distinct : targets.Nodup) :
    (fanoutTo (.binary (.participantPresenceDelta delta)) targets dropped).Meets
      (ownContract hub connId fun past op _ => AnnouncesOwn hub past op)
      (fun _ later => before <+: undelivered hub later.own) world := by
  induction targets generalizing served dropped world with
  | nil =>
      intro later own
      rw [own]
      exact start
  | cons target rest ih =>
      obtain ⟨apart, distinct⟩ := List.nodup_cons.mp distinct
      intro world' own
      rw [← own] at start sent
      refine ⟨⟨nofun, ?_⟩, ?_⟩
      · rintro _ _ ⟨⟩
        exact ⟨taken, served, sent, among target List.mem_cons_self⟩
      · have further : sending hub
            (⟨connId, .connection, .trySend target (.binary (.participantPresenceDelta delta)),
              world'.shared⟩ :: world'.own) = some (delta, taken, target :: served) := by
          rw [sending_sent, sent]
          rfl
        refine ih ?_ further (fun other member => ?_) distinct
        · change before <+: undelivered hub (_ :: world'.own)
          rw [undelivered_sent]
          exact start
        · obtain ⟨present, unserved⟩ := among other (List.mem_cons_of_mem _ member)
          refine ⟨present, ?_⟩
          rw [List.mem_cons, not_or]
          exact ⟨fun same => apart (same ▸ member), unserved⟩

/-- The first of the deltas to be fanned out is broadcast. -/
theorem delivers_broadcastFrame (delta : ParticipantPresenceDeltaFrame)
    (rest : List ParticipantPresenceDeltaFrame) :
    Delivers hub connId (delta :: rest) rest
      (broadcastFrame hub (.participantPresenceDelta delta)) := by
  refine (delivers_of_performs (performs_encodeOrFail _)).bind fun _ => ?_
  intro world start world' own
  rw [← own] at start
  obtain ⟨tail, first⟩ := start
  have silent : (⟨connId, .connection, .fanout (.participantPresenceDelta delta),
      world'.shared⟩ : Event).presenceDeltas hub = [] := presenceDeltas_of_quiet rfl _ _
  have reached : rest <+: undelivered hub (⟨connId, .connection,
      .fanout (.participantPresenceDelta delta), world'.shared⟩ :: world'.own) := by
    unfold undelivered
    rw [silent]
    exact ⟨tail, (congrArg List.tail first).trans rfl⟩
  refine ⟨⟨?_, nofun⟩, ?_⟩
  · rintro _ ⟨⟩
    rw [← first]
    rfl
  · change Process.Meets _ _ (fanoutFound hub (.participantPresenceDelta delta)
      (world'.shared.room.map (·.participants.keys))) _
    cases found : world'.shared.room with
    | none => exact delivers_done () _ reached
    | some room =>
        refine (delivers_fanoutTo reached rfl (fun target member => ?_)
          room.participants.keys_nodup).bind fun dropped later ended => ?_
        · rw [HubRoom.connections_of_some found]
          exact ⟨member, List.not_mem_nil⟩
        · exact delivers_of_performs (performs_afterFanout plumbing_ignoresPresence dropped) later
            ended

/-- A program that never numbers or announces a delta, wherever it is started. -/
theorem delivers_silent {program : Handler Value}
    (performs : program.Performs fun op => op.ignoresPresence = true) :
    Delivers hub connId before [] program :=
  fun world _ => delivers_of_performs performs world List.nil_prefix

theorem delivers_each (admitted : List WaitingRoomAdmitOutcome) :
    Delivers hub connId (admitted.map (·.presenceDelta)) []
      (Process.each admitted fun admitted =>
        broadcastFrame hub (.participantPresenceDelta admitted.presenceDelta)) := by
  induction admitted with
  | nil => exact delivers_done ()
  | cons first rest ih =>
      exact (delivers_broadcastFrame first.presenceDelta _).bind fun _ => ih

theorem ignoresPresence_sendFrameTo {target : ConnId} {frame : KaigiFrame}
    (other : (Operation.fanout frame).ignoresPresence = true) :
    (sendFrameTo hub target frame).Performs fun op => op.ignoresPresence = true :=
  performs_sendFrameTo plumbing_ignoresPresence ((relays_ignoresPresence other).send target)

theorem ignoresPresence_broadcastFrame {frame : KaigiFrame}
    (other : (Operation.fanout frame).ignoresPresence = true) :
    (broadcastFrame hub frame).Performs fun op => op.ignoresPresence = true :=
  performs_broadcastFrame plumbing_ignoresPresence (relays_ignoresPresence other)

theorem ignoresPresence_sendError (target : ConnId) (message : String) :
    (sendError hub target message).Performs fun op => op.ignoresPresence = true :=
  performs_sendError plumbing_ignoresPresence target message

theorem ignoresPresence_broadcastRoomConfig :
    (broadcastRoomConfig hub).Performs fun op => op.ignoresPresence = true :=
  performs_broadcastRoomConfig plumbing_ignoresPresence fun _ => relays_ignoresPresence rfl

theorem ignoresPresence_broadcastPermissionsSnapshots :
    (broadcastPermissionsSnapshots hub).Performs fun op => op.ignoresPresence = true :=
  performs_broadcastPermissionsSnapshots plumbing_ignoresPresence fun _ _ => rfl

theorem delivers_unlessAnonymous {refusal : String} {next : Handler Unit}
    (passed : Delivers hub connId [] [] next) :
    Delivers hub connId [] [] (unlessAnonymous hub connId refusal next) := by
  refine (delivers_of_performs (performs_critical rfl)).bind fun anonymous => ?_
  cases anonymous with
  | true => exact delivers_silent (ignoresPresence_sendError connId refusal)
  | false => exact passed

theorem delivers_announceJoin (snapshot : ParticipantSnapshot)
    (delta : ParticipantPresenceDeltaFrame) :
    Delivers hub connId [delta] [] (announceJoin hub connId snapshot delta) := by
  refine delivers_nowMs.bind fun _ => ?_
  refine (delivers_of_performs (performs_critical rfl)).bind fun roster => ?_
  refine (delivers_of_performs (ignoresPresence_sendFrameTo rfl)).bind fun _ => ?_
  refine (delivers_of_performs (ignoresPresence_broadcastFrame rfl)).bind fun _ => ?_
  refine (delivers_broadcastFrame delta []).bind fun _ => delivers_silent ?_
  exact performs_bind ignoresPresence_broadcastRoomConfig fun _ =>
    performs_bind (performs_critical rfl) fun _ =>
      performs_bind (ignoresPresence_sendFrameTo rfl) fun _ =>
        ignoresPresence_broadcastPermissionsSnapshots

theorem delivers_handleHello (frame : HelloFrame) :
    Delivers hub connId [] [] (handleHello hub connId frame) := by
  unfold handleHello
  generalize enforceJoinMediaDefaults frame = defaults
  obtain ⟨hello, forcedOff⟩ := defaults
  split
  · exact delivers_silent (ignoresPresence_sendError connId _)
  · refine delivers_nowMs.bind fun snapshotAtMs => delivers_nowMs.bind fun deltaAtMs =>
      delivers_critical rfl rfl fun state => ?_
    cases found : state.room with
    | none => exact delivers_silent trivial
    | some room =>
        dsimp only [Option.map_some, Option.elim_some, Operation.presenceDeltas]
        cases (helloSection room connId hello snapshotAtMs deltaAtMs).2 with
        | participantMissing => exact delivers_silent trivial
        | modeConflict => exact delivers_silent (ignoresPresence_sendError connId _)
        | denied reason => exact delivers_silent (ignoresPresence_sendError connId reason)
        | waiting notice =>
            exact delivers_silent (performs_bind
              (performs_notifyModerators plumbing_ignoresPresence notice) fun _ =>
                ignoresPresence_sendError connId notice)
        | joined snapshot presenceDelta =>
            dsimp only [HelloOutcome.presenceDeltas]
            split
            · exact (delivers_of_performs (ignoresPresence_sendError connId _)).bind fun _ =>
                delivers_announceJoin snapshot presenceDelta
            · exact delivers_announceJoin snapshot presenceDelta

theorem delivers_announceRoleChange {frame : KaigiFrame} (outcome : RoleMutationOutcome)
    (presenceDelta : Option ParticipantPresenceDeltaFrame)
    (other : (Operation.fanout frame).ignoresPresence = true) :
    Delivers hub connId presenceDelta.toList []
      (announceRoleChange hub frame outcome presenceDelta) := by
  refine (delivers_of_performs (ignoresPresence_broadcastFrame other)).bind fun _ =>
    .when (delivers_of_performs ignoresPresence_broadcastRoomConfig) fun _ =>
      .when (delivers_of_performs ignoresPresence_broadcastPermissionsSnapshots) fun _ => ?_
  cases presenceDelta with
  | none => exact delivers_done ()
  | some delta => exact delivers_broadcastFrame delta []

theorem delivers_handleRoleGrant (grant : RoleGrantFrame) :
    Delivers hub connId [] [] (handleRoleGrant hub connId grant) := by
  refine delivers_unlessAnonymous <| delivers_nowMs.bind fun deltaAtMs =>
    delivers_critical rfl rfl fun state => ?_
  cases state.room with
  | none => exact delivers_done ()
  | some room =>
      dsimp only [Option.map_some, Option.elim_some, Operation.presenceDeltas]
      rcases (roleGrantSection hub room connId grant deltaAtMs).2 with message | ⟨outcome, delta⟩
      · exact delivers_silent (ignoresPresence_sendError connId message)
      · exact delivers_announceRoleChange outcome delta rfl

theorem delivers_handleRoleRevoke (revoke : RoleRevokeFrame) :
    Delivers hub connId [] [] (handleRoleRevoke hub connId revoke) := by
  refine delivers_unlessAnonymous <| delivers_nowMs.bind fun deltaAtMs =>
    delivers_critical rfl rfl fun state => ?_
  cases state.room with
  | none => exact delivers_done ()
  | some room =>
      dsimp only [Option.map_some, Option.elim_some, Operation.presenceDeltas]
      rcases (roleRevokeSection hub room connId revoke deltaAtMs).2 with message | ⟨outcome, delta⟩
      · exact delivers_silent (ignoresPresence_sendError connId message)
      · exact delivers_announceRoleChange outcome delta rfl

theorem delivers_announceModeration (moderation : ModerationFrame) {auditFrame : KaigiFrame}
    (outcome : ModerationOutcome)
    (other : (Operation.fanout auditFrame).ignoresPresence = true) :
    Delivers hub connId outcome.presenceDeltas []
      (announceModeration hub moderation auditFrame outcome) := by
  refine (delivers_of_performs (ignoresPresence_broadcastFrame other)).bind fun _ => ?_
  refine (delivers_of_performs (.each fun snapshot _ =>
    ignoresPresence_broadcastFrame rfl)).bind fun _ => ?_
  refine (delivers_of_performs (.each fun admitted _ =>
    ignoresPresence_broadcastFrame rfl)).bind fun _ => ?_
  refine (delivers_each outcome.admittedOutcomes).bind fun _ => delivers_silent ?_
  exact performs_bind (.each fun admitted _ => performs_sendAdmissionFrames
      plumbing_ignoresPresence (fun _ => relays_ignoresPresence rfl)
        (fun _ => relays_ignoresPresence rfl) fun _ => relays_ignoresPresence rfl)
    fun _ => performs_when ignoresPresence_broadcastPermissionsSnapshots fun _ =>
      performs_dismissals plumbing_ignoresPresence moderation outcome fun _ => rfl

theorem delivers_processModerationFrame (moderation : ModerationFrame) {auditFrame : KaigiFrame}
    (other : (Operation.fanout auditFrame).ignoresPresence = true) :
    Delivers hub connId [] [] (processModerationFrame hub connId moderation auditFrame) := by
  refine delivers_unlessAnonymous <| delivers_nowMs.bind fun now => delivers_nowMs.bind
    fun admitAtMs => delivers_critical rfl rfl fun state => ?_
  cases state.room with
  | none => exact delivers_done ()
  | some room =>
      dsimp only [Option.bind_some, Option.elim_some, Operation.presenceDeltas]
      rcases (moderationSection room connId moderation now admitAtMs).2 with
        _ | (message | outcome)
      · exact delivers_done ()
      · exact delivers_silent (ignoresPresence_sendError connId message)
      · dsimp only [moderationDeltas]
        split
        · exact delivers_silent (ignoresPresence_sendError connId _)
        · exact delivers_announceModeration moderation outcome other

theorem delivers_handleModerationSigned (signed : ModerationSignedFrame) :
    Delivers hub connId [] [] (handleModerationSigned hub connId signed) := by
  refine delivers_unlessAnonymous ?_
  refine (delivers_of_performs (performs_critical rfl)).bind fun outcome => ?_
  cases outcome with
  | ignored => exact delivers_done ()
  | refused message => exact delivers_silent (ignoresPresence_sendError connId message)
  | passed => exact delivers_processModerationFrame _ rfl

theorem delivers_handleDisconnect : Delivers hub connId [] [] (handleDisconnect hub connId) := by
  refine delivers_nowMs.bind fun deltaAtMs => delivers_nowMs.bind fun leftAtMs =>
    delivers_critical rfl rfl fun state => ?_
  cases state.room with
  | none => exact delivers_done ()
  | some room =>
      dsimp only [Option.map_some, Option.elim_some, Operation.presenceDeltas]
      generalize (disconnectSection room connId deltaAtMs leftAtMs).2 = outcome
      have hostChange : ∀ done : Unit, ((if outcome.hostChanged then do
          broadcastRoomConfig hub
          broadcastPermissionsSnapshots hub
          else pure ()) : Handler Unit).Performs fun op => op.ignoresPresence = true := by
        intro _
        split
        · exact performs_bind ignoresPresence_broadcastRoomConfig fun _ =>
            ignoresPresence_broadcastPermissionsSnapshots
        · trivial
      split
      · exact delivers_silent trivial
      · split
        · exact delivers_silent (performs_announceAnonymousLeave plumbing_ignoresPresence
            (fun _ => rfl) (fun _ => relays_ignoresPresence rfl)
              (fun _ => relays_ignoresPresence rfl) fun _ => relays_ignoresPresence rfl)
        · cases outcome.leftParticipantId with
          | none => exact delivers_silent (hostChange ())
          | some participantId =>
              refine delivers_nowMs.bind fun _ =>
                (delivers_of_performs (ignoresPresence_broadcastFrame rfl)).bind fun _ => ?_
              cases outcome.presenceDelta with
              | none => exact delivers_silent (hostChange ())
              | some delta =>
                  exact (delivers_broadcastFrame delta []).bind fun _ =>
                    delivers_silent (hostChange ())

theorem delivers_handleFrame (frame : KaigiFrame) :
    Delivers hub connId [] [] (handleFrame hub connId frame) := by
  by_cases ordinary : isRequest frame = false
  · exact delivers_ordinary (ordinary_handleFrame ordinary)
  · cases frame with
    | hello hello => exact delivers_handleHello hello
    | anonHello hello =>
        exact delivers_silent (performs_handleAnonHello plumbing_ignoresPresence (fun _ _ => rfl)
          (fun _ => rfl) (fun _ => relays_ignoresPresence rfl) fun _ => relays_ignoresPresence rfl)
    | groupKeyUpdate update =>
        exact delivers_silent (performs_handleGroupKeyUpdate plumbing_ignoresPresence rfl
          (relays_ignoresPresence rfl))
    | roomConfigUpdate update =>
        exact delivers_silent (performs_handleRoomConfigUpdate plumbing_ignoresPresence
          (fun _ => rfl) fun _ => relays_ignoresPresence rfl)
    | roleGrant grant => exact delivers_handleRoleGrant grant
    | roleRevoke revoke => exact delivers_handleRoleRevoke revoke
    | sessionPolicy update =>
        exact delivers_silent (performs_handleSessionPolicy plumbing_ignoresPresence rfl
          (fun _ => relays_ignoresPresence rfl) fun _ _ => rfl)
    | moderation moderation => exact delivers_processModerationFrame moderation rfl
    | moderationSigned signed => exact delivers_handleModerationSigned signed
    | _ => exact absurd rfl ordinary

/-- Every connection task announces its own deltas, each of them once. -/
def presenceProtocol (hub : HubState) (connId : ConnId) : Protocol hub connId where
  admits past op _ := AnnouncesOwn hub past op
  resting _ := True
  connects _ _ := trivial
  pongs past _ _ _ := ⟨announcesOwn_of_ignores rfl past, trivial⟩
  serves frame world _ := (delivers_handleFrame frame world List.nil_prefix).mono
    fun _ _ _ => trivial
  leaves world _ := (delivers_handleDisconnect world List.nil_prefix).mono fun _ _ _ => trivial

end Announcing

end Kaigi.Hub
