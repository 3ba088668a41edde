import Kaigi.Hub.BillingTask
import Kaigi.Hub.FrameOperations
import Kaigi.Hub.PresenceOrder

/-!
# Issued counters

Snapshots, presence deltas and policies carry a counter of the room. The task that sends
such a frame has read the counter, or has moved it, in an earlier operation of its own.
-/

set_option autoImplicit false

namespace Kaigi.Hub

open Collections Wire Interleaving Replication

/-- The counters by which clients tell what is newer. -/
inductive Counter where
  | permissions
  | presence
  | policy
deriving DecidableEq

/-- A room that is not there shows the counters of a fresh one. -/
def Counter.of : Counter → Option RoomState → Nat
  | .permissions, room => room.elim 0 (·.permissionsEpoch)
  | .presence, room => room.elim 0 (·.presenceSequence)
  | .policy, room => (sessionPolicyFrame room).policyEpoch

/-- The counter that the frame shows, with its value. -/
def counted : KaigiFrame → Option (Counter × Nat)
  | .permissionsSnapshot snapshot => some (.permissions, snapshot.epoch)
  | .participantPresenceDelta delta => some (.presence, delta.sequence)
  | .sessionPolicy policy => some (.policy, policy.policyEpoch)
  | _ => none

/-- The event leaves the room that the frame is built from, or draws its number. -/
def Event.issues (hub : HubState) (event : Event) : KaigiFrame → Prop
  | .permissionsSnapshot snapshot => ∃ room connId atMs, (event.after hub).room = some room ∧
      permissionsSnapshotForConn room connId atMs = some snapshot
  | .participantPresenceDelta delta => delta ∈ event.presenceDeltas hub
  | .sessionPolicy policy => policy = sessionPolicyFrame (event.after hub).room
  | _ => False

/-- The task has issued the frame in an operation before this one. -/
def Issued (hub : HubState) (past : List Event) (op : Operation) (_ : HubRoom) : Prop :=
  ∀ frame, op.frame? = some frame → counted frame ≠ none →
    ∃ issue ∈ past, issue.issues hub frame

theorem permissionsSnapshotForConn_epoch {room : RoomState} {connId : ConnId} {atMs : Nat}
    {snapshot : PermissionsSnapshotFrame}
    (taken : permissionsSnapshotForConn room connId atMs = some snapshot) :
    snapshot.epoch = room.permissionsEpoch := by
  unfold permissionsSnapshotForConn at taken
  split at taken
  · cases taken
  · split at taken
    · cases taken
    · cases taken
      rfl

/-- A frame shows its counter as the event that issues it leaves it. -/
theorem Event.issues_counted {hub : HubState} {event : Event} {frame : KaigiFrame}
    {counter : Counter} {number : Nat} (issues : event.issues hub frame)
    (shows : counted frame = some (counter, number)) :
    counter.of (event.after hub).room = number := by
  cases frame with
  | permissionsSnapshot snapshot =>
      cases shows
      obtain ⟨room, connId, atMs, left, taken⟩ := issues
      rw [left, permissionsSnapshotForConn_epoch taken]
      rfl
  | participantPresenceDelta delta =>
      cases shows
      obtain ⟨only, _, after, single, _, left, _, last⟩ :=
        event.numbered (List.ne_nil_of_mem issues)
      have drawn : delta = only := by
        rw [Event.issues, single] at issues
        exact List.mem_singleton.mp issues
      rw [left, drawn]
      exact last
  | sessionPolicy policy =>
      cases shows
      rw [show policy = _ from issues]
      rfl
  | _ => cases shows

section Handlers

variable {hub : HubState} {connId : ConnId} {events : List Event} {op : Operation}
  {Value Result : Type}

theorem isReport_of_counted {frame : KaigiFrame} (shows : counted frame ≠ none) :
    isReport frame = true := by
  cases frame with
  | permissionsSnapshot | participantPresenceDelta | sessionPolicy => rfl
  | _ => exact absurd rfl shows

/-- The operation may be performed once the events have happened. -/
def Permitted (hub : HubState) (events : List Event) (op : Operation) : Prop :=
  ∀ past state, events ⊆ past → Issued hub past op state

theorem permitted_uncounted (uncounted : ∀ frame, op.frame? = some frame → counted frame = none) :
    Permitted hub events op := by
  intro past state _ frame carried shows
  exact absurd (uncounted frame carried) shows

theorem permitted_silent (silent : op.frame? = none) : Permitted hub events op := by
  refine permitted_uncounted fun frame carried => ?_
  rw [silent] at carried
  cases carried

theorem permitted_ordinary (ordinary : op.isOrdinary = true) : Permitted hub events op := by
  intro past state _ frame carried shows
  have reports := isReport_of_counted shows
  cases op with
  | fanout =>
      cases carried
      simp [Operation.isOrdinary, Operation.frame?, reports] at ordinary
  | trySend target message =>
      cases message with
      | binary =>
          cases carried
          simp [Operation.isOrdinary, Operation.frame?, reports] at ordinary
      | pong | close => cases carried
  | _ => cases carried

theorem plumbing_permitted : Plumbing (Permitted hub events) :=
  ⟨permitted_silent rfl, fun _ => permitted_silent rfl, fun _ _ => permitted_silent rfl,
    fun _ _ => permitted_uncounted fun _ carried => by cases carried; rfl⟩

theorem relays_uncounted {frame : KaigiFrame} (uncounted : counted frame = none) :
    Relays (Permitted hub events) frame where
  fanout := permitted_uncounted fun _ carried => by cases carried; exact uncounted
  send _ := permitted_uncounted fun _ carried => by cases carried; exact uncounted

theorem relays_issued {frame : KaigiFrame} {issue : Event} (happened : issue ∈ events)
    (issues : issue.issues hub frame) : Relays (Permitted hub events) frame := by
  have issued : ∀ op : Operation, op.frame? = some frame → Permitted hub events op := by
    intro op carries past state known other carried _
    rw [carries] at carried
    cases carried
    exact ⟨issue, known happened, issues⟩
  exact ⟨issued _ rfl, fun _ => issued _ rfl⟩

/-- A delta may be sent after the section that has drawn its number. -/
theorem relays_drawn {state : HubRoom} {room : RoomState} {delta : ParticipantPresenceDeltaFrame}
    (found : state.room = some room) (drawn : delta ∈ op.presenceDeltas hub connId room) :
    Relays (Permitted hub (⟨connId, .connection, op, state⟩ :: events))
      (.participantPresenceDelta delta) := by
  refine relays_issued List.mem_cons_self ?_
  change delta ∈ Event.presenceDeltas hub _
  rw [Event.presenceDeltas, found]
  exact drawn

/-- Once the events have happened, the program sends only what was issued. -/
def Informed (hub : HubState) (connId : ConnId) (events : List Event)
    (program : Handler Value) : Prop :=
  program.Keeps (ownContract hub connId (Issued hub)) fun world => events ⊆ world.own

theorem stable_known :
    Process.Stable (ownContract hub connId (Issued hub)) fun world => events ⊆ world.own := by
  intro before after same known
  rw [show after.own = before.own from same]
  exact known

theorem Informed.bind {program : Handler Value} {next : Value → Handler Result}
    (first : Informed hub connId events program)
    (rest : ∀ value, Informed hub connId events (next value)) :
    Informed hub connId events (program >>= next) :=
  Process.Keeps.bind first rest

theorem informed_done (value : Value) :
    Informed hub connId events (.done value : Handler Value) :=
  .done stable_known value

theorem informed_of_performs {program : Handler Value}
    (performs : program.Performs (Permitted hub events)) : Informed hub connId events program :=
  performs.keeps stable_known
    (fun _ world may known =>
      ⟨may world.own world.shared known, List.subset_cons_of_subset _ known⟩)
    fun _ _ _ => trivial

/-- A statement made only under a condition, before the rest of the program. -/
theorem Informed.when {condition : Prop} [Decidable condition] {body : Handler Unit}
    {next : Unit → Handler Value} (first : Informed hub connId events body)
    (rest : ∀ done, Informed hub connId events (next done)) :
    Informed hub connId events (if condition then body >>= next else next ()) := by
  split
  · exact first.bind rest
  · exact rest ()

theorem informed_each {Item : Type} {items : List Item} {body : Item → Handler Unit}
    (item : ∀ item ∈ items, Informed hub connId events (body item)) :
    Informed hub connId events (Process.each items body) :=
  .each stable_known item

theorem informed_nowMs : Informed hub connId events nowMs :=
  informed_of_performs performs_nowMs

/-- What follows a critical section may also send what the section has issued. -/
theorem informed_critical {view : Option RoomState → Value} {next : Value → Handler Result}
    (may : Permitted hub events op)
    (rest : ∀ state : HubRoom, Informed hub connId
      (⟨connId, .connection, op, state⟩ :: events) (next (view state.room))) :
    Informed hub connId events (critical op view >>= next) := by
  intro world known world' same
  have here : events ⊆ world'.own := stable_known same known
  refine ⟨may world'.own world'.shared here, ?_⟩
  exact (rest world'.shared _ (List.cons_subset_cons _ here)).mono fun _ _ reached =>
    List.Subset.trans (List.subset_cons_self _ _) reached

theorem informed_sendError (target : ConnId) (message : String) :
    Informed hub connId events (sendError hub target message) :=
  informed_of_performs (performs_sendError plumbing_permitted target message)

theorem informed_sendFrameTo {target : ConnId} {frame : KaigiFrame}
    (relays : Relays (Permitted hub events) frame) :
    Informed hub connId events (sendFrameTo hub target frame) :=
  informed_of_performs (performs_sendFrameTo plumbing_permitted (relays.send target))

theorem informed_broadcastFrame {frame : KaigiFrame}
    (relays : Relays (Permitted hub events) frame) :
    Informed hub connId events (broadcastFrame hub frame) :=
  informed_of_performs (performs_broadcastFrame plumbing_permitted relays)

theorem informed_broadcastRoomConfig : Informed hub connId events (broadcastRoomConfig hub) :=
  informed_of_performs (performs_broadcastRoomConfig plumbing_permitted fun _ =>
    relays_uncounted rfl)

/-- A read leaves the room as it is. -/
theorem after_read (state : HubRoom) :
    ((⟨connId, .connection, .read, state⟩ : Event).after hub).room = state.room := by
  obtain ⟨room, _⟩ := state
  cases room <;> rfl

theorem informed_broadcastPermissionsSnapshots :
    Informed hub connId events (broadcastPermissionsSnapshots hub) := by
  refine informed_nowMs.bind fun atMs => informed_critical (permitted_silent rfl) fun state => ?_
  refine informed_of_performs (.each fun listed among => ?_)
  obtain ⟨target, snapshot⟩ := listed
  cases found : state.room with
  | none =>
      rw [found] at among
      cases among
  | some room =>
      rw [found] at among
      dsimp only at among
      split at among
      · cases among
      · obtain ⟨member, _, taken⟩ := List.mem_filterMap.mp among
        obtain ⟨_, taken, same⟩ := Option.map_eq_some_iff.mp taken
        cases same
        have issues : Event.issues hub ⟨connId, .connection, .read, state⟩
            (.permissionsSnapshot snapshot) :=
          ⟨room, target, atMs, (after_read state).trans found, taken⟩
        exact performs_sendFrameTo plumbing_permitted
          ((relays_issued List.mem_cons_self issues).send target)

/-- A policy is sent right after it was read. -/
theorem informed_policy {next : SessionPolicyFrame → Handler Value}
    (rest : ∀ read policy, Relays (Permitted hub (read :: events)) (.sessionPolicy policy) →
      Informed hub connId (read :: events) (next policy)) :
    Informed hub connId events (critical .read sessionPolicyFrame >>= next) :=
  informed_critical (permitted_silent rfl) fun state =>
    rest _ _ (relays_issued List.mem_cons_self
      (congrArg sessionPolicyFrame (after_read state).symm))

theorem informed_unlessAnonymous {refusal : String} {next : Handler Unit}
    (passed : Informed hub connId events next) :
    Informed hub connId events (unlessAnonymous hub connId refusal next) := by
  refine (informed_of_performs (performs_critical (permitted_silent rfl))).bind fun anonymous => ?_
  cases anonymous with
  | true => exact informed_sendError connId refusal
  | false => exact passed

theorem informed_announceJoin {snapshot : ParticipantSnapshot}
    {delta : ParticipantPresenceDeltaFrame}
    (drawn : Relays (Permitted hub events) (.participantPresenceDelta delta)) :
    Informed hub connId events (announceJoin hub connId snapshot delta) := by
  refine informed_nowMs.bind fun _ =>
    (informed_of_performs (performs_critical (permitted_silent rfl))).bind fun _ => ?_
  refine (informed_sendFrameTo (relays_uncounted rfl)).bind fun _ => ?_
  refine (informed_broadcastFrame (relays_uncounted rfl)).bind fun _ => ?_
  refine (informed_broadcastFrame drawn).bind fun _ => informed_broadcastRoomConfig.bind fun _ => ?_
  exact informed_policy fun _ _ read => (informed_sendFrameTo read).bind fun _ =>
    informed_broadcastPermissionsSnapshots

theorem informed_handleHello (frame : HelloFrame) :
    Informed hub connId events (handleHello hub connId frame) := by
  unfold handleHello
  generalize enforceJoinMediaDefaults frame = defaults
  obtain ⟨hello, forcedOff⟩ := defaults
  split
  · exact informed_sendError connId _
  · refine informed_nowMs.bind fun snapshotAtMs => informed_nowMs.bind fun deltaAtMs =>
      informed_critical (permitted_silent rfl) fun state => ?_
    cases found : state.room with
    | none => exact informed_of_performs trivial
    | some room =>
        rw [Option.map_some]
        cases outcome : (helloSection room connId hello snapshotAtMs deltaAtMs).2 with
        | participantMissing => exact informed_of_performs trivial
        | modeConflict => exact informed_sendError connId _
        | denied reason => exact informed_sendError connId reason
        | waiting notice =>
            exact (informed_of_performs (performs_notifyModerators plumbing_permitted notice)).bind
              fun _ => informed_sendError connId notice
        | joined snapshot delta =>
            refine .when (informed_sendError connId _) fun _ =>
              informed_announceJoin (relays_drawn found ?_)
            rw [Operation.presenceDeltas, outcome]
            exact List.mem_singleton.mpr rfl

theorem informed_announceRoleChange {frame : KaigiFrame} (uncounted : counted frame = none)
    {outcome : RoleMutationOutcome} {delta : Option ParticipantPresenceDeltaFrame}
    (drawn : ∀ drawn ∈ delta, Relays (Permitted hub events) (.participantPresenceDelta drawn)) :
    Informed hub connId events (announceRoleChange hub frame outcome delta) := by
  refine (informed_broadcastFrame (relays_uncounted uncounted)).bind fun _ =>
    .when informed_broadcastRoomConfig fun _ =>
      .when informed_broadcastPermissionsSnapshots fun _ => ?_
  cases delta with
  | none => exact informed_done ()
  | some delta => exact informed_broadcastFrame (drawn delta rfl)

theorem informed_handleRoleGrant (grant : RoleGrantFrame) :
    Informed hub connId events (handleRoleGrant hub connId grant) := by
  refine informed_unlessAnonymous <| informed_nowMs.bind fun deltaAtMs =>
    informed_critical (permitted_silent rfl) fun state => ?_
  cases found : state.room with
  | none => exact informed_done ()
  | some room =>
      rw [Option.map_some]
      rcases result : (roleGrantSection hub room connId grant deltaAtMs).2 with
        message | ⟨outcome, delta⟩
      · exact informed_sendError connId message
      · refine informed_announceRoleChange rfl fun drawn member => relays_drawn found ?_
        rw [Operation.presenceDeltas, result]
        exact Option.mem_toList.mpr member

theorem informed_handleRoleRevoke (revoke : RoleRevokeFrame) :
    Informed hub connId events (handleRoleRevoke hub connId revoke) := by
  refine informed_unlessAnonymous <| informed_nowMs.bind fun deltaAtMs =>
    informed_critical (permitted_silent rfl) fun state => ?_
  cases found : state.room with
  | none => exact informed_done ()
  | some room =>
      rw [Option.map_some]
      rcases result : (roleRevokeSection hub room connId revoke deltaAtMs).2 with
        message | ⟨outcome, delta⟩
      · exact informed_sendError connId message
      · refine informed_announceRoleChange rfl fun drawn member => relays_drawn found ?_
        rw [Operation.presenceDeltas, result]
        exact Option.mem_toList.mpr member

theorem informed_handleSessionPolicy (update : SessionPolicyFrame) :
    Informed hub connId events (handleSessionPolicy hub connId update) := by
  refine informed_unlessAnonymous <|
    (informed_of_performs (performs_critical (permitted_silent rfl))).bind fun outcome => ?_
  rcases outcome with _ | (message | _)
  · exact informed_done ()
  · exact informed_sendError connId message
  · exact informed_policy fun _ _ read => (informed_broadcastFrame read).bind fun _ =>
      informed_broadcastPermissionsSnapshots

theorem informed_sendAdmissionFrames (outcome : WaitingRoomAdmitOutcome) :
    Informed hub connId events (sendAdmissionFrames hub outcome) := by
  refine informed_nowMs.bind fun _ =>
    (informed_of_performs (performs_critical (permitted_silent rfl))).bind fun _ => ?_
  refine (informed_sendFrameTo (relays_uncounted rfl)).bind fun _ => informed_nowMs.bind fun _ => ?_
  refine (informed_of_performs (performs_critical (permitted_silent rfl))).bind fun _ => ?_
  refine (informed_sendFrameTo (relays_uncounted rfl)).bind fun _ => ?_
  refine informed_policy fun _ _ read => ?_
  exact informed_sendFrameTo read

theorem informed_announceModeration {moderation : ModerationFrame} {auditFrame : KaigiFrame}
    (uncounted : counted auditFrame = none) {outcome : ModerationOutcome}
    (drawn : ∀ drawn ∈ outcome.presenceDeltas,
      Relays (Permitted hub events) (.participantPresenceDelta drawn)) :
    Informed hub connId events (announceModeration hub moderation auditFrame outcome) := by
  refine (informed_broadcastFrame (relays_uncounted uncounted)).bind fun _ => ?_
  refine (informed_each fun _ _ =>
    informed_broadcastFrame (relays_uncounted rfl)).bind fun _ => ?_
  refine (informed_each fun _ _ =>
    informed_broadcastFrame (relays_uncounted rfl)).bind fun _ => ?_
  refine (informed_each fun admitted among =>
    informed_broadcastFrame (drawn _ (List.mem_map_of_mem among))).bind fun _ => ?_
  refine (informed_each fun admitted _ =>
    informed_sendAdmissionFrames admitted).bind fun _ => ?_
  exact .when informed_broadcastPermissionsSnapshots fun _ => informed_of_performs
    (performs_dismissals plumbing_permitted moderation outcome fun _ => permitted_silent rfl)

theorem informed_processModerationFrame {moderation : ModerationFrame} {auditFrame : KaigiFrame}
    (uncounted : counted auditFrame = none) :
    Informed hub connId events (processModerationFrame hub connId moderation auditFrame) := by
  refine informed_unlessAnonymous <| informed_nowMs.bind fun now => informed_nowMs.bind
    fun admitAtMs => informed_critical (permitted_silent rfl) fun state => ?_
  cases found : state.room with
  | none => exact informed_done ()
  | some room =>
      rw [Option.bind_some]
      rcases result : (moderationSection room connId moderation now admitAtMs).2 with
        _ | (message | outcome)
      · exact informed_done ()
      · exact informed_sendError connId message
      · dsimp only
        split
        · exact informed_sendError connId _
        · refine informed_announceModeration uncounted fun drawn member => relays_drawn found ?_
          rw [Operation.presenceDeltas, result]
          exact member

theorem informed_handleDisconnect : Informed hub connId events (handleDisconnect hub connId) := by
  refine informed_nowMs.bind fun deltaAtMs => informed_nowMs.bind fun leftAtMs =>
    informed_critical (permitted_silent rfl) fun state => ?_
  cases found : state.room with
  | none => exact informed_done ()
  | some room =>
      rw [Option.map_some]
      have drawn : ∀ delta ∈ (disconnectSection room connId deltaAtMs leftAtMs).2.presenceDelta,
          Relays (Permitted hub (⟨connId, .connection, .disconnect deltaAtMs leftAtMs, state⟩ ::
            events)) (.participantPresenceDelta delta) :=
        fun _ member => relays_drawn found (Option.mem_toList.mpr member)
      revert drawn
      generalize (disconnectSection room connId deltaAtMs leftAtMs).2 = outcome
      intro drawn
      dsimp only
      split
      · exact informed_done ()
      · split
        · exact informed_of_performs (performs_announceAnonymousLeave plumbing_permitted
            (fun _ => permitted_silent rfl) (fun _ => relays_uncounted rfl)
              (fun _ => relays_uncounted rfl) fun _ => relays_uncounted rfl)
        · have hostChange : Informed hub connId
              (⟨connId, .connection, .disconnect deltaAtMs leftAtMs, state⟩ :: events)
              ((if outcome.hostChanged then do
                broadcastRoomConfig hub
                broadcastPermissionsSnapshots hub
                else pure ()) : Handler Unit) := by
            split
            · exact informed_broadcastRoomConfig.bind fun _ =>
                informed_broadcastPermissionsSnapshots
            · exact informed_done ()
          cases outcome.leftParticipantId with
          | none => exact hostChange
          | some participantId =>
              refine informed_nowMs.bind fun _ =>
                (informed_broadcastFrame (relays_uncounted rfl)).bind fun _ => ?_
              cases reported : outcome.presenceDelta with
              | none => exact hostChange
              | some delta =>
                  exact (informed_broadcastFrame (drawn delta reported)).bind fun _ => hostChange

theorem informed_handleFrame (frame : KaigiFrame) :
    Informed hub connId events (handleFrame hub connId frame) := by
  cases request : isRequest frame with
  | false => exact informed_of_performs ((ordinary_handleFrame request).mono
      fun _ => permitted_ordinary)
  | true =>
      cases frame with
      | hello hello => exact informed_handleHello hello
      | anonHello hello =>
          exact informed_of_performs (performs_handleAnonHello plumbing_permitted
            (fun _ _ => permitted_silent rfl) (fun _ => (relays_uncounted rfl).send connId)
              (fun _ => relays_uncounted rfl) fun _ => relays_uncounted rfl)
      | groupKeyUpdate update =>
          exact informed_of_performs (performs_handleGroupKeyUpdate plumbing_permitted
            (permitted_silent rfl) (relays_uncounted rfl))
      | roomConfigUpdate update =>
          exact informed_of_performs (performs_handleRoomConfigUpdate plumbing_permitted
            (fun _ => permitted_silent rfl) fun _ => relays_uncounted rfl)
      | roleGrant grant => exact informed_handleRoleGrant grant
      | roleRevoke revoke => exact informed_handleRoleRevoke revoke
      | sessionPolicy update => exact informed_handleSessionPolicy update
      | moderation moderation => exact informed_processModerationFrame rfl
      | moderationSigned signed =>
          refine informed_unlessAnonymous <|
            (informed_of_performs (performs_critical (permitted_silent rfl))).bind fun outcome => ?_
          cases outcome with
          | ignored => exact informed_done ()
          | refused message => exact informed_sendError connId message
          | passed => exact informed_processModerationFrame rfl
      | _ => cases request

/-- Every connection task issues what it sends. -/
def issueProtocol (hub : HubState) (connId : ConnId) : Protocol hub connId where
  admits := Issued hub
  resting _ := True
  connects _ _ := trivial
  pongs past payload state _ := by
    have silent : Permitted hub [] (.trySend connId (.pong payload)) := permitted_silent rfl
    exact ⟨silent past state (List.nil_subset past), trivial⟩
  serves frame world _ := (informed_handleFrame frame world (List.nil_subset world.own)).mono
    fun _ _ _ => trivial
  leaves world _ := (informed_handleDisconnect world (List.nil_subset world.own)).mono
    fun _ _ _ => trivial

end Handlers

/-- What a connection task sends it has issued before. -/
theorem Run.issued {hub : HubState} {history newer older : List Event} {system : System}
    {event : Event} {frame : KaigiFrame} (run : Run hub history system)
    (split : history = newer ++ event :: older) (carried : event.op.frame? = some frame)
    (shows : counted frame ≠ none) :
    ∃ issue ∈ older, issue.IsOf event.connId ∧ issue.issues hub frame := by
  have task : event.task = .connection := by
    refine run.frame_task (split ▸ List.mem_append_right _ List.mem_cons_self) carried ?_
    rintro notice rfl
    exact shows rfl
  obtain ⟨_, connects⟩ | issued :=
    ((issueProtocol hub event.connId).kept run).admitted newer event older split rfl task
  · rw [connects] at carried
    cases carried
  · obtain ⟨issue, happened, issues⟩ := issued frame carried shows
    obtain ⟨among, own⟩ := mem_own.mp happened
    exact ⟨issue, among, own, issues⟩

end Kaigi.Hub
