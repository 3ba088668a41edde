import Kaigi.Hub.Discipline

/-!
# Every handler keeps the discipline

The rules for the building blocks of the handlers, then one theorem for each
handler, in the order of their definitions.
-/

set_option autoImplicit false

namespace Kaigi.Hub

open Collections Wire Interleaving Authority

/-- The program respects the contract of its task wherever it is started with
what the task knows. -/
def Disciplined (hub : HubState) (role : Role) (sure : Bool) (connId : ConnId) {Value : Type}
    (program : Handler Value) : Prop :=
  program.Keeps (hubContract hub role connId) (Assured role sure connId)

section Rules

variable {hub : HubState} {role : Role} {sure : Bool} {connId : ConnId} {Value Result : Type}

theorem Disciplined.bind {program : Handler Value} {next : Value → Handler Result}
    (first : Disciplined hub role sure connId program)
    (second : ∀ value, Disciplined hub role sure connId (next value)) :
    Disciplined hub role sure connId (program >>= next) :=
  Process.Keeps.bind first second

/-- A statement made only under a condition, before the rest of the program. -/
theorem Disciplined.when {condition : Prop} [Decidable condition] {body : Handler Unit}
    {next : Unit → Handler Value} (first : Disciplined hub role sure connId body)
    (rest : ∀ done, Disciplined hub role sure connId (next done)) :
    Disciplined hub role sure connId (if condition then body >>= next else next ()) := by
  split
  · exact .bind first rest
  · exact rest ()

theorem disciplined_done (value : Value) :
    Disciplined hub role sure connId (.done value : Handler Value) :=
  .done (stable_assured hub) value

theorem disciplined_nowMs : Disciplined hub role sure connId nowMs :=
  .ask disciplined_done

theorem disciplined_each {Item : Type} {items : List Item} {body : Item → Handler Unit}
    (item : ∀ current, Disciplined hub role sure connId (body current)) :
    Disciplined hub role sure connId (Process.each items body) :=
  .each (stable_assured hub) fun current _ => item current

theorem disciplined_atomic {op : Operation} {next : HubRoom → Handler Value}
    (permitted : role.permits op = true) (certain : op.needsTransparent = true → sure = true)
    (notOwn : op.isAnonHello = true → sure = false) (quiet : op.delivers = none)
    (rest : ∀ state, Disciplined hub role sure connId (next state)) :
    Disciplined hub role sure connId (.atomic op next) := by
  have guarded : ∀ world, Assured role sure connId world → Guarded role connId op world := by
    intro world assured
    refine ⟨permitted, fun needs => assured.transparent (certain needs) ?_, ?_⟩
    · cases role with
      | serving | leaving => rfl
      | charging => cases op <;> first | (cases permitted; done) | cases needs
    · intro target frame delivers
      rw [quiet] at delivers
      cases delivers
  exact .atomic (stable_assured hub) guarded
    (fun world assured => assured.act hub (guarded world assured) notOwn) rest

theorem disciplined_critical {op : Operation} {view : Option RoomState → Value}
    (permitted : role.permits op = true) (certain : op.needsTransparent = true → sure = true)
    (notOwn : op.isAnonHello = true → sure = false) (quiet : op.delivers = none) :
    Disciplined hub role sure connId (critical op view) :=
  disciplined_atomic permitted certain notOwn quiet fun _ => disciplined_done _

theorem disciplined_encodeOrFail (frame : KaigiFrame) :
    Disciplined hub role sure connId (encodeOrFail hub frame) := by
  unfold encodeOrFail
  split
  · exact fun _ _ => trivial
  · exact disciplined_done ()

theorem disciplined_trySend {target : ConnId} {message : Message}
    (quiet : (Operation.trySend target message).delivers = none) :
    Disciplined hub role sure connId (trySend target message) :=
  disciplined_atomic (by cases role <;> rfl) nofun nofun quiet fun _ => disciplined_done _

theorem delivers_trySend_plain {target : ConnId} {frame : KaigiFrame}
    (plain : isRoomContent frame = false) :
    (Operation.trySend target (.binary frame)).delivers = none := by
  simp [Operation.delivers, plain]

variable (task : role.task = .connection)
include task

/-- What both roles of a connection task contain. -/
theorem Role.permits_of_connection {op : Operation}
    (common : (Role.serving.permits op && Role.leaving.permits op) = true) :
    role.permits op = true := by
  rw [Bool.and_eq_true] at common
  cases role with
  | serving => exact common.1
  | leaving => exact common.2
  | charging => cases task

theorem disciplined_read {view : Option RoomState → Value} :
    Disciplined hub role sure connId (critical .read view) :=
  disciplined_critical (Role.permits_of_connection task rfl) nofun nofun rfl

/-- The lookup may fail, but only right after it found nobody. -/
theorem disciplined_lookupSender (target : ConnId) :
    Disciplined hub role sure connId (lookupSender target) := by
  intro world assured world' undisturbed
  have here := stable_assured hub undisturbed assured
  have guarded : Guarded role connId (.lookup target) world' :=
    ⟨Role.permits_of_connection task rfl, nofun, nofun⟩
  have after : Assured role sure connId
      ((hubContract hub role connId).act (.lookup target) world') := here.act hub guarded nofun
  refine ⟨guarded, ?_⟩
  change Process.Meets _ _ (lookedUp target world'.shared.room) _
  cases present : world'.shared.room with
  | none =>
      refine ⟨_, _, rfl, fun room found => ?_⟩
      rw [present] at found
      cases found
  | some room =>
      simp only [lookedUp]
      split
      · exact disciplined_done () _ after
      · next missing =>
          refine ⟨_, _, rfl, fun current found => ?_⟩
          rw [present] at found
          cases found
          simpa [HashMap.containsKey] using missing

theorem disciplined_sendFrameTo (target : ConnId) {frame : KaigiFrame}
    (plain : isRoomContent frame = false) :
    Disciplined hub role sure connId (sendFrameTo hub target frame) :=
  .bind (disciplined_encodeOrFail frame) fun _ =>
    .bind (disciplined_lookupSender task target) fun _ =>
      .bind (disciplined_trySend (delivers_trySend_plain plain)) fun _ => disciplined_done ()

theorem disciplined_sendError (target : ConnId) (message : String) :
    Disciplined hub role sure connId (sendError hub target message) :=
  disciplined_sendFrameTo task target rfl

theorem disciplined_notifyModerators (message : String) :
    Disciplined hub role sure connId (notifyModerators hub message) :=
  .bind (disciplined_read task) fun _ =>
    disciplined_each fun _ => disciplined_sendFrameTo task _ rfl

/-- While a frame is sent to the recipients of its fan-out, that fan-out stays
the latest one. -/
theorem keeps_fanoutTo {frame : KaigiFrame} {taken : HubRoom} {targets : List ConnId}
    {dropped : Nat}
    (among : ∀ target ∈ targets, target ∈ taken.connections) :
    (fanoutTo (.binary frame) targets dropped).Keeps (hubContract hub role connId)
      fun world => Assured role sure connId world ∧
        lastFanout world.own = some (frame, taken) := by
  have stable : Process.Stable (hubContract hub role connId) fun world =>
      Assured role sure connId world ∧ lastFanout world.own = some (frame, taken) :=
    fun _ _ undisturbed ⟨assured, latest⟩ =>
      ⟨stable_assured hub undisturbed assured, by rw [undisturbed.own]; exact latest⟩
  induction targets generalizing dropped with
  | nil => exact .done stable dropped
  | cons target rest ih =>
      have guarded : ∀ world, (Assured role sure connId world ∧
          lastFanout world.own = some (frame, taken)) →
          Guarded role connId (.trySend target (.binary frame)) world := by
        rintro world ⟨_, latest⟩
        refine ⟨by cases role <;> rfl, nofun, fun chosen sent delivers => ?_⟩
        simp only [Operation.delivers] at delivers
        split at delivers
        · cases delivers
          exact ⟨taken, latest, among _ List.mem_cons_self⟩
        · cases delivers
      refine .atomic stable guarded (fun world here =>
        ⟨here.1.act hub (guarded world here) nofun, here.2⟩) fun state => ?_
      exact ih fun current member => among current (List.mem_cons_of_mem _ member)

theorem disciplined_broadcastFrame (frame : KaigiFrame) :
    Disciplined hub role sure connId (broadcastFrame hub frame) := by
  refine .bind (disciplined_encodeOrFail frame) fun _ => ?_
  intro world assured world' undisturbed
  have here := stable_assured hub undisturbed assured
  have guarded : Guarded role connId (.fanout frame) world' :=
    ⟨Role.permits_of_connection task rfl, nofun, nofun⟩
  have after : Assured role sure connId
      ((hubContract hub role connId).act (.fanout frame) world') := here.act hub guarded nofun
  refine ⟨guarded, ?_⟩
  change Process.Meets _ _ (fanoutFound hub frame (world'.shared.room.map (·.participants.keys))) _
  cases present : world'.shared.room with
  | none => exact disciplined_done () _ after
  | some room =>
      have latest : lastFanout ((hubContract hub role connId).act (.fanout frame) world').own =
          some (frame, world'.shared) := rfl
      have among : ∀ target ∈ room.participants.keys, target ∈ world'.shared.connections := by
        rw [HubRoom.connections_of_some present]
        exact fun _ member => member
      refine (keeps_fanoutTo task among _ ⟨after, latest⟩).bind
        fun dropped later ⟨assuredLater, _⟩ => ?_
      have rest : Disciplined hub role sure connId (afterFanout hub dropped) := by
        unfold afterFanout
        split
        · refine .bind disciplined_nowMs fun now => .bind (disciplined_critical
            (Role.permits_of_connection task rfl) nofun nofun rfl) fun notice => ?_
          cases notice with
          | none => exact disciplined_done ()
          | some notice => exact disciplined_notifyModerators task notice
        · exact disciplined_done ()
      exact rest later assuredLater

theorem disciplined_broadcastPermissionsSnapshots :
    Disciplined hub role sure connId (broadcastPermissionsSnapshots hub) :=
  .bind disciplined_nowMs fun _ => .bind (disciplined_read task) fun _ =>
    disciplined_each fun _ => disciplined_sendFrameTo task _ rfl

theorem disciplined_broadcastRoomConfig :
    Disciplined hub role sure connId (broadcastRoomConfig hub) :=
  .bind disciplined_nowMs fun _ => .bind (disciplined_read task) fun _ =>
    disciplined_broadcastFrame task _

theorem disciplined_afterCheck {outcome : CheckOutcome} {next : Handler Unit}
    (passed : Disciplined hub role sure connId next) :
    Disciplined hub role sure connId (afterCheck hub connId outcome next) := by
  cases outcome with
  | ignored => exact disciplined_done ()
  | refused message => exact disciplined_sendError task connId message
  | passed => exact passed

theorem disciplined_checked {check : RoomState → CheckOutcome} {next : Handler Unit}
    (passed : Disciplined hub role sure connId next) :
    Disciplined hub role sure connId (checked hub connId check next) :=
  .bind (disciplined_read task) fun _ => disciplined_afterCheck task passed

theorem disciplined_behindE2eeGate {next : Handler Unit}
    (passed : Disciplined hub role sure connId next) :
    Disciplined hub role sure connId (behindE2eeGate hub connId next) := by
  refine .bind (disciplined_read task) fun refusal => ?_
  cases refusal with
  | none => exact passed
  | some message => exact disciplined_sendError task connId message

theorem disciplined_afterRelay (outcome : RelayOutcome) (frame : KaigiFrame) :
    Disciplined hub role sure connId (afterRelay hub connId outcome frame) := by
  cases outcome with
  | nothing => exact disciplined_done ()
  | refused message => exact disciplined_sendError task connId message
  | relay => exact disciplined_broadcastFrame task frame

/-- Behind the mode check a handler is sure that its connection is not
anonymous: nobody is in a transparent room, and nobody else can change that. -/
theorem disciplined_unlessAnonymous {refusal : String} {next : Handler Unit}
    (passed : Disciplined hub role true connId next) :
    Disciplined hub role sure connId (unlessAnonymous hub connId refusal next) := by
  intro world assured world' undisturbed
  have here := stable_assured hub undisturbed assured
  have guarded : Guarded role connId .read world' :=
    ⟨Role.permits_of_connection task rfl, nofun, nofun⟩
  refine ⟨guarded, ?_⟩
  change Process.Meets _ _ (if world'.shared.room.any (·.anonymousMode) then
    sendError hub connId refusal else next) _
  split
  · exact disciplined_sendError task connId refusal _ (here.act hub guarded nofun)
  · next mode =>
      have transparent : world'.shared.TransparentAt connId := by
        intro room participant found present
        have separated := here.separated room found
        have roomMode : room.anonymousMode = false := by simpa [found] using mode
        exact separated.transparent roomMode connId _ (members_groupOf present)
      have certain : Assured role true connId world' := ⟨here.separated, fun _ _ => transparent⟩
      exact (passed _ (certain.act hub guarded nofun)).mono fun _ _ after =>
        ⟨after.separated, fun _ => after.transparent rfl⟩

end Rules

section Handlers

variable {hub : HubState} {sure : Bool} {connId : ConnId}

theorem helloSection_participantMissing {room : RoomState} {hello : HelloFrame}
    {snapshotAtMs deltaAtMs : Nat}
    (missing : (helloSection room connId hello snapshotAtMs deltaAtMs).2 = .participantMissing) :
    room.participants.get? connId = none := by
  unfold helloSection at missing
  split at missing
  · cases missing
  · split at missing
    · cases missing
    · dsimp only at missing
      rw [participants_claimVacantHost] at missing
      split at missing
      · next absent => exact absent
      · split at missing <;> cases missing

theorem disciplined_handleAnonHello (hello : AnonHelloFrame) :
    Disciplined hub .serving false connId (handleAnonHello hub connId hello) := by
  unfold handleAnonHello
  split
  · exact disciplined_sendError rfl connId _
  · split
    · exact disciplined_sendError rfl connId _
    · refine .bind disciplined_nowMs fun now => .bind disciplined_nowMs fun rosterAtMs =>
        .bind (disciplined_critical rfl nofun (fun _ => rfl) rfl) fun outcome => ?_
      cases outcome with
      | ignored => exact disciplined_done ()
      | rejected message => exact disciplined_sendError rfl connId message
      | accepted roster update rotate =>
          exact .bind (disciplined_sendFrameTo rfl connId rfl) fun _ =>
            .bind (disciplined_broadcastFrame rfl _) fun _ => disciplined_broadcastFrame rfl _

theorem disciplined_handleEscrowProof (proof : EscrowProofFrame) :
    Disciplined hub .serving sure connId (handleEscrowProof hub connId proof) := by
  refine .bind disciplined_nowMs fun now =>
    .bind (disciplined_critical rfl nofun nofun rfl) fun outcome => ?_
  cases outcome with
  | none => exact disciplined_done ()
  | some reason =>
      exact .bind disciplined_nowMs fun _ => disciplined_sendFrameTo rfl connId rfl

theorem disciplined_announceJoin (snapshot : ParticipantSnapshot)
    (presenceDelta : ParticipantPresenceDeltaFrame) :
    Disciplined hub .serving sure connId (announceJoin hub connId snapshot presenceDelta) :=
  .bind disciplined_nowMs fun _ => .bind (disciplined_read rfl) fun _ =>
    .bind (disciplined_sendFrameTo rfl connId rfl) fun _ =>
      .bind (disciplined_broadcastFrame rfl _) fun _ =>
        .bind (disciplined_broadcastFrame rfl _) fun _ =>
          .bind (disciplined_broadcastRoomConfig rfl) fun _ =>
            .bind (disciplined_read rfl) fun _ =>
              .bind (disciplined_sendFrameTo rfl connId rfl) fun _ =>
                disciplined_broadcastPermissionsSnapshots rfl

/-- `Hello` itself fails only when its connection or the room is gone. -/
theorem disciplined_handleHello (frame : HelloFrame) :
    Disciplined hub .serving sure connId (handleHello hub connId frame) := by
  unfold handleHello
  split
  · exact disciplined_sendError rfl connId _
  · refine .bind disciplined_nowMs fun snapshotAtMs => .bind disciplined_nowMs fun deltaAtMs => ?_
    intro world assured world' undisturbed
    have here := stable_assured hub undisturbed assured
    have guarded : Guarded .serving connId
        (.hello (enforceJoinMediaDefaults frame).1 snapshotAtMs deltaAtMs) world' :=
      ⟨rfl, nofun, nofun⟩
    have after := here.act hub guarded nofun
    refine ⟨guarded, ?_⟩
    have nobody : world'.shared.Lacks connId →
        MayFail .participantMissing ((hubContract hub .serving connId).act
          (.hello (enforceJoinMediaDefaults frame).1 snapshotAtMs deltaAtMs) world') :=
      fun lacks => ⟨_, _, rfl, lacks⟩
    change Process.Meets _ _ (Process.bind (.done (world'.shared.room.map fun room =>
      (helloSection room connId (enforceJoinMediaDefaults frame).1 snapshotAtMs deltaAtMs).2))
        _) _
    rw [Process.done_bind]
    cases present : world'.shared.room with
    | none =>
        exact nobody fun room found => by rw [present] at found; cases found
    | some room =>
        cases outcome : (helloSection room connId (enforceJoinMediaDefaults frame).1 snapshotAtMs
            deltaAtMs).2 with
        | participantMissing =>
            have missing := helloSection_participantMissing outcome
            simp only [Option.map_some, outcome]
            exact nobody fun current found => by
              rw [present] at found
              cases found
              exact missing
        | modeConflict =>
            simp only [Option.map_some, outcome]
            exact disciplined_sendError rfl connId _ _ after
        | denied reason =>
            simp only [Option.map_some, outcome]
            exact disciplined_sendError rfl connId _ _ after
        | waiting notice =>
            simp only [Option.map_some, outcome]
            have rest : Disciplined hub .serving sure connId (do
                notifyModerators hub notice
                sendError hub connId notice : Handler Unit) :=
              .bind (disciplined_notifyModerators rfl notice) fun _ =>
                disciplined_sendError rfl connId notice
            exact rest _ after
        | joined snapshot presenceDelta =>
            simp only [Option.map_some, outcome]
            have rest : Disciplined hub .serving sure connId (do
                if (enforceJoinMediaDefaults frame).2 then
                  sendError hub connId "mic/video/screen share must start disabled; forced off"
                announceJoin hub connId snapshot presenceDelta : Handler Unit) :=
              .when (disciplined_sendError rfl connId _) fun _ =>
                disciplined_announceJoin snapshot presenceDelta
            exact rest _ after

theorem disciplined_handleChat (chat : ChatFrame) :
    Disciplined hub .serving sure connId (handleChat hub connId chat) := by
  refine disciplined_unlessAnonymous rfl (.bind (disciplined_read rfl) fun joined => ?_)
  cases joined with
  | false => exact disciplined_sendError rfl connId _
  | true =>
      exact disciplined_behindE2eeGate rfl <| .bind disciplined_nowMs fun _ =>
        .bind (disciplined_read rfl) fun _ => disciplined_broadcastFrame rfl _

theorem disciplined_handleParticipantState (update : ParticipantStateFrame) :
    Disciplined hub .serving sure connId (handleParticipantState hub connId update) := by
  refine disciplined_unlessAnonymous rfl <| .bind disciplined_nowMs fun atMs =>
    .bind (disciplined_critical rfl nofun nofun rfl) fun outcome => ?_
  cases outcome with
  | ignored => exact disciplined_done ()
  | refused message => exact disciplined_sendError rfl connId message
  | updated snapshot denyShareMax =>
      cases denyShareMax with
      | none => exact disciplined_broadcastFrame rfl _
      | some maxScreenShares =>
          exact .bind (disciplined_sendError rfl connId _) fun _ =>
            disciplined_broadcastFrame rfl _

theorem disciplined_handleMediaTrackState (track : MediaTrackStateFrame) :
    Disciplined hub .serving sure connId (handleMediaTrackState hub connId track) := by
  refine disciplined_unlessAnonymous rfl <| disciplined_behindE2eeGate rfl <|
    .bind disciplined_nowMs fun atMs =>
      .bind (disciplined_critical rfl nofun nofun rfl) fun outcome => ?_
  cases outcome with
  | ignored => exact disciplined_done ()
  | refused message => exact disciplined_sendError rfl connId message
  | updated snapshot _ =>
      exact .bind (disciplined_broadcastFrame rfl _) fun _ => disciplined_broadcastFrame rfl _

theorem disciplined_handleRoomConfigUpdate (update : RoomConfigUpdateFrame) :
    Disciplined hub .serving sure connId (handleRoomConfigUpdate hub connId update) := by
  refine disciplined_unlessAnonymous rfl <| .bind disciplined_nowMs fun now =>
    .bind (disciplined_critical rfl (fun _ => rfl) nofun rfl) fun outcome => ?_
  cases outcome with
  | ignored => exact disciplined_done ()
  | refused message => exact disciplined_sendError rfl connId message
  | applied changed rejectedZeroRate =>
      refine .when (disciplined_sendError rfl connId _) fun _ => ?_
      split
      · exact disciplined_broadcastRoomConfig rfl
      · exact disciplined_done ()

theorem disciplined_announceRoleChange (frame : KaigiFrame) (outcome : RoleMutationOutcome)
    (presenceDelta : Option ParticipantPresenceDeltaFrame) :
    Disciplined hub .serving sure connId
      (announceRoleChange hub frame outcome presenceDelta) := by
  refine .bind (disciplined_broadcastFrame rfl frame) fun _ =>
    .when (disciplined_broadcastRoomConfig rfl) fun _ =>
      .when (disciplined_broadcastPermissionsSnapshots rfl) fun _ => ?_
  cases presenceDelta with
  | none => exact disciplined_done ()
  | some delta => exact disciplined_broadcastFrame rfl _

theorem disciplined_handleRoleGrant (grant : RoleGrantFrame) :
    Disciplined hub .serving sure connId (handleRoleGrant hub connId grant) := by
  refine disciplined_unlessAnonymous rfl <| .bind disciplined_nowMs fun deltaAtMs =>
    .bind (disciplined_critical rfl nofun nofun rfl) fun outcome => ?_
  rcases outcome with _ | (message | ⟨outcome, presenceDelta⟩)
  · exact disciplined_done ()
  · exact disciplined_sendError rfl connId message
  · exact disciplined_announceRoleChange _ outcome presenceDelta

theorem disciplined_handleRoleRevoke (revoke : RoleRevokeFrame) :
    Disciplined hub .serving sure connId (handleRoleRevoke hub connId revoke) := by
  refine disciplined_unlessAnonymous rfl <| .bind disciplined_nowMs fun deltaAtMs =>
    .bind (disciplined_critical rfl nofun nofun rfl) fun outcome => ?_
  rcases outcome with _ | (message | ⟨outcome, presenceDelta⟩)
  · exact disciplined_done ()
  · exact disciplined_sendError rfl connId message
  · exact disciplined_announceRoleChange _ outcome presenceDelta

theorem disciplined_handleSessionPolicy (update : SessionPolicyFrame) :
    Disciplined hub .serving sure connId (handleSessionPolicy hub connId update) := by
  refine disciplined_unlessAnonymous rfl <|
    .bind (disciplined_critical rfl nofun nofun rfl) fun outcome => ?_
  rcases outcome with _ | (message | _)
  · exact disciplined_done ()
  · exact disciplined_sendError rfl connId message
  · exact .bind (disciplined_read rfl) fun _ => .bind (disciplined_broadcastFrame rfl _) fun _ =>
      disciplined_broadcastPermissionsSnapshots rfl

theorem disciplined_handleDeviceCapability (cap : DeviceCapabilityFrame) :
    Disciplined hub .serving sure connId (handleDeviceCapability hub connId cap) :=
  disciplined_unlessAnonymous rfl <| disciplined_checked rfl <|
    .bind (disciplined_critical rfl nofun nofun rfl) fun _ => disciplined_broadcastFrame rfl _

theorem disciplined_handleMediaProfileNegotiation (profile : MediaProfileNegotiationFrame) :
    Disciplined hub .serving sure connId (handleMediaProfileNegotiation hub connId profile) :=
  disciplined_unlessAnonymous rfl <| disciplined_checked rfl <|
    .bind (disciplined_read rfl) fun _ => disciplined_broadcastFrame rfl _

theorem disciplined_handleE2eeKeyEpoch (keyEpoch : E2EEKeyEpochFrame) :
    Disciplined hub .serving sure connId (handleE2eeKeyEpoch hub connId keyEpoch) :=
  disciplined_unlessAnonymous rfl <|
    .bind (disciplined_critical rfl nofun nofun rfl) fun _ =>
      disciplined_afterCheck rfl (disciplined_broadcastFrame rfl _)

theorem disciplined_handleKeyRotationAck (ack : KeyRotationAckFrame) :
    Disciplined hub .serving sure connId (handleKeyRotationAck hub connId ack) :=
  disciplined_unlessAnonymous rfl <|
    .bind (disciplined_critical rfl nofun nofun rfl) fun _ =>
      disciplined_afterCheck rfl (disciplined_broadcastFrame rfl _)

theorem disciplined_sendAdmissionFrames (outcome : WaitingRoomAdmitOutcome) :
    Disciplined hub .serving sure connId (sendAdmissionFrames hub outcome) :=
  .bind disciplined_nowMs fun _ => .bind (disciplined_read rfl) fun _ =>
    .bind (disciplined_sendFrameTo rfl _ rfl) fun _ => .bind disciplined_nowMs fun _ =>
      .bind (disciplined_read rfl) fun _ => .bind (disciplined_sendFrameTo rfl _ rfl) fun _ =>
        .bind (disciplined_read rfl) fun _ => disciplined_sendFrameTo rfl _ rfl

theorem disciplined_sendClosing {role : Role} (target : ConnId) {notice : Option KaigiFrame}
    (plain : ∀ frame, notice = some frame → isRoomContent frame = false) :
    Disciplined hub role sure connId (sendClosing target notice) := by
  have close : Disciplined hub role sure connId (do
      let _ ← trySend target .close : Handler Unit) :=
    .bind (disciplined_trySend rfl) fun _ => disciplined_done ()
  cases notice with
  | none => exact close
  | some frame =>
      exact .bind (disciplined_trySend (delivers_trySend_plain (plain frame rfl))) fun _ => close

theorem encodable_eq_some {frame encoded : KaigiFrame}
    (accepted : encodable hub frame = some encoded) : encoded = frame := by
  unfold encodable at accepted
  split at accepted <;> cases accepted
  rfl

theorem disciplined_announceModeration (moderation : ModerationFrame) (auditFrame : KaigiFrame)
    (outcome : ModerationOutcome) :
    Disciplined hub .serving sure connId
      (announceModeration hub moderation auditFrame outcome) := by
  refine .bind (disciplined_broadcastFrame rfl _) fun _ =>
    .bind (disciplined_each fun _ => disciplined_broadcastFrame rfl _) fun _ =>
      .bind (disciplined_each fun _ => disciplined_broadcastFrame rfl _) fun _ =>
        .bind (disciplined_each fun _ => disciplined_broadcastFrame rfl _) fun _ =>
          .bind (disciplined_each fun _ => disciplined_sendAdmissionFrames _) fun _ =>
            .when (disciplined_broadcastPermissionsSnapshots rfl) fun _ => ?_
  have denied : Disciplined hub .serving sure connId
      (if moderation.action = .denyFromWaiting then
        Process.each outcome.deniedParticipants fun denied =>
          sendClosing denied.1
            (encodable hub (.error ⟨s!"waiting room admission denied: {denied.2}"⟩))
      else pure () : Handler Unit) := by
    split
    · refine disciplined_each fun current => disciplined_sendClosing _ fun frame accepted => ?_
      rw [encodable_eq_some accepted]
      rfl
    · exact disciplined_done ()
  dsimp only
  by_cases kicks : moderation.action = .kick
  · rw [if_pos kicks]
    split
    · exact disciplined_done ()
    · next frame accepted =>
        refine .bind (disciplined_each fun current => disciplined_sendClosing _ fun sent same => ?_)
          fun _ => denied
        cases same
        rw [encodable_eq_some accepted]
        rfl
  · rw [if_neg kicks]
    exact denied

theorem disciplined_processModerationFrame (moderation : ModerationFrame)
    (auditFrame : KaigiFrame) :
    Disciplined hub .serving sure connId
      (processModerationFrame hub connId moderation auditFrame) := by
  refine disciplined_unlessAnonymous rfl <| .bind disciplined_nowMs fun now =>
    .bind disciplined_nowMs fun admitAtMs =>
      .bind (disciplined_critical rfl (fun _ => rfl) nofun rfl) fun outcome => ?_
  rcases outcome with _ | (message | outcome)
  · exact disciplined_done ()
  · exact disciplined_sendError rfl connId message
  · dsimp only
    split
    · exact disciplined_sendError rfl connId _
    · exact disciplined_announceModeration moderation auditFrame outcome

theorem disciplined_handlePayment (payment : PaymentFrame) :
    Disciplined hub .serving sure connId (handlePayment hub connId payment) := by
  refine disciplined_unlessAnonymous rfl <| .bind disciplined_nowMs fun now =>
    .bind (disciplined_critical rfl (fun _ => rfl) nofun rfl) fun outcome => ?_
  cases outcome with
  | ignored => exact disciplined_done ()
  | requireHello | invalidPaymentHash => exact disciplined_sendError rfl connId _
  | accepted => exact disciplined_sendFrameTo rfl connId rfl

theorem disciplined_handleFrame (frame : KaigiFrame) :
    Disciplined hub .serving false connId (handleFrame hub connId frame) := by
  cases frame with
  | anonHello hello => exact disciplined_handleAnonHello hello
  | groupKeyUpdate update =>
      exact .bind (disciplined_critical rfl nofun nofun rfl) fun _ => disciplined_afterRelay rfl _ _
  | encryptedControl enc =>
      exact .bind (disciplined_read rfl) fun _ => disciplined_afterRelay rfl _ _
  | anonEncryptedPayload enc =>
      exact .bind (disciplined_read rfl) fun _ => disciplined_afterRelay rfl _ _
  | escrowProof proof => exact disciplined_handleEscrowProof proof
  | hello hello => exact disciplined_handleHello hello
  | chat chat => exact disciplined_handleChat chat
  | participantState update => exact disciplined_handleParticipantState update
  | mediaCapability cap =>
      exact disciplined_unlessAnonymous rfl <|
        disciplined_checked rfl (disciplined_broadcastFrame rfl _)
  | mediaTrackState track => exact disciplined_handleMediaTrackState track
  | videoSegment segment =>
      exact disciplined_unlessAnonymous rfl <| disciplined_behindE2eeGate rfl <|
        disciplined_checked rfl (disciplined_broadcastFrame rfl _)
  | audioPacket packet =>
      exact disciplined_unlessAnonymous rfl <| disciplined_behindE2eeGate rfl <|
        disciplined_checked rfl (disciplined_broadcastFrame rfl _)
  | anonGroupKeyRotate | permissionsSnapshot | participantPresenceDelta =>
      exact disciplined_sendError rfl connId _
  | roomConfigUpdate update => exact disciplined_handleRoomConfigUpdate update
  | roleGrant grant => exact disciplined_handleRoleGrant grant
  | roleRevoke revoke => exact disciplined_handleRoleRevoke revoke
  | sessionPolicy update => exact disciplined_handleSessionPolicy update
  | deviceCapability cap => exact disciplined_handleDeviceCapability cap
  | mediaProfileNegotiation profile => exact disciplined_handleMediaProfileNegotiation profile
  | recordingNotice notice =>
      exact disciplined_unlessAnonymous rfl <|
        disciplined_checked rfl (disciplined_broadcastFrame rfl _)
  | e2eeKeyEpoch keyEpoch => exact disciplined_handleE2eeKeyEpoch keyEpoch
  | keyRotationAck ack => exact disciplined_handleKeyRotationAck ack
  | moderation moderation => exact disciplined_processModerationFrame moderation _
  | moderationSigned signed =>
      exact disciplined_unlessAnonymous rfl <|
        disciplined_checked rfl (disciplined_processModerationFrame _ _)
  | payment payment => exact disciplined_handlePayment payment
  | ping => exact disciplined_sendFrameTo rfl connId rfl
  | escrowAck | anonRoster | roomConfig | paymentAck | pong | roster | event | error =>
      exact disciplined_done ()

theorem disciplined_announceAnonymousLeave (handle : Option String) :
    Disciplined hub .leaving sure connId (announceAnonymousLeave hub handle) := by
  have rotate : Disciplined hub .leaving sure connId (rotateGroupKey hub) := by
    refine .bind disciplined_nowMs fun _ =>
      .bind (disciplined_critical rfl nofun nofun rfl) fun outcome => ?_
    cases outcome with
    | none => exact disciplined_done ()
    | some rotate => exact disciplined_broadcastFrame rfl _
  refine .bind disciplined_nowMs fun _ => .bind (disciplined_read rfl) fun _ =>
    .bind (disciplined_broadcastFrame rfl _) fun _ => ?_
  cases handle with
  | none => exact rotate
  | some handle =>
      exact .bind disciplined_nowMs fun _ =>
        .bind (disciplined_broadcastFrame rfl _) fun _ => rotate

theorem disciplined_handleDisconnect :
    Disciplined hub .leaving false connId (handleDisconnect hub connId) := by
  refine .bind disciplined_nowMs fun _ => .bind disciplined_nowMs fun _ =>
    .bind (disciplined_critical rfl nofun nofun rfl) fun outcome => ?_
  cases outcome with
  | none => exact disciplined_done ()
  | some outcome =>
      dsimp only
      split
      · exact disciplined_done ()
      · split
        · exact disciplined_announceAnonymousLeave _
        · have config : Disciplined hub .leaving false connId
              (if outcome.hostChanged then (do
                broadcastRoomConfig hub
                broadcastPermissionsSnapshots hub) else pure () : Handler Unit) := by
            split
            · exact .bind (disciplined_broadcastRoomConfig rfl) fun _ =>
                disciplined_broadcastPermissionsSnapshots rfl
            · exact disciplined_done ()
          split
          · refine .bind disciplined_nowMs fun _ =>
              .bind (disciplined_broadcastFrame rfl _) fun _ => ?_
            split
            · exact .bind (disciplined_broadcastFrame rfl _) fun _ => config
            · exact config
          · exact config

theorem disciplined_enforceBilling :
    Disciplined hub .charging false connId (enforceBilling hub connId) := by
  refine .bind disciplined_nowMs fun _ =>
    .bind (disciplined_critical rfl nofun nofun rfl) fun outcome => ?_
  cases outcome with
  | ended | goOn => exact disciplined_done _
  | disconnect message =>
      refine .bind (disciplined_sendClosing connId fun frame accepted => ?_) fun _ =>
        disciplined_done _
      rw [encodable_eq_some accepted]
      rfl

end Handlers

end Kaigi.Hub
