import Kaigi.Hub.Handling
import Kaigi.Hub.Integrity
import Mathlib.Data.List.Infix

/-!
# The end-to-end encryption gate

In a room that requires end-to-end encryption a frame takes effect only after its
sender has published a key. The gate is a critical section of its own and lets pass
whoever has not joined, so a sender that is let in behind the gate evades it.
-/

set_option autoImplicit false

namespace Kaigi.Hub

open Collections Wire Interleaving

/-- The frames behind the gate. -/
def isGated : KaigiFrame → Bool
  | .chat _ | .participantState _ | .mediaTrackState _ | .videoSegment _ | .audioPacket _ => true
  | _ => false

def StateOutcome.isUpdated : StateOutcome → Bool
  | .updated _ _ => true
  | _ => false

/-- The handler of a gated frame applies the frame or fans something out. -/
def Event.takesEffect (event : Event) : Bool :=
  match event.op with
  | .fanout _ => true
  | .participantState update atMs => event.before.room.any fun room =>
      (participantStateSection room event.connId update atMs).2.isUpdated
  | .mediaTrackState track atMs => event.before.room.any fun room =>
      (mediaTrackStateSection room event.connId track atMs).2.isUpdated
  | _ => false

def HubRoom.passesGate (state : HubRoom) (connId : ConnId) : Prop :=
  state.room.bind (plaintextE2eeGate · connId) = none

/-- The connection has joined under that id. -/
def HubRoom.hasSender (state : HubRoom) (connId : ConnId) (participantId : String) : Bool :=
  state.room.any fun room => (room.participants.get? connId).any fun sender =>
    sender.helloSeen && sender.participantId == participantId

/-- What the task has found since it began to handle a gated frame, the latest event
first, when the frame takes effect. -/
inductive Cleared (connId : ConnId) (past : List Event) : Prop where
  | state {applied : Event} {rest : List Event} {room : RoomState} :
      applied :: rest <:+ past → applied.before.room = some room →
      room.helloSeen connId = true →
      room.e2eeRequired = false ∨ 1 ≤ publishedEpoch room connId → Cleared connId past
  | chat {gate check : Event} {rest : List Event} :
      gate :: check :: rest <:+ past → check.before.hasJoined connId = true →
      gate.before.passesGate connId → Cleared connId past
  | track {applied gate : Event} {rest : List Event} {track : MediaTrackStateFrame} {atMs : Nat} :
      applied :: gate :: rest <:+ past → applied.op = .mediaTrackState track atMs →
      applied.before.hasSender connId track.participantId = true →
      gate.before.passesGate connId → Cleared connId past
  | media {fan check gate : Event} {rest : List Event} {frame : KaigiFrame} :
      fan :: check :: gate :: rest <:+ past → fan.op = .fanout frame →
      (∃ segment, frame = .videoSegment segment) ∨ (∃ packet, frame = .audioPacket packet) →
      check.before.hasJoined connId = true → gate.before.passesGate connId → Cleared connId past

theorem Cleared.mono {connId : ConnId} {past later : List Event} (cleared : Cleared connId past)
    (grows : past <:+ later) : Cleared connId later := by
  cases cleared with
  | state among found joined free => exact .state (among.trans grows) found joined free
  | chat among joined passes => exact .chat (among.trans grows) joined passes
  | track among op joined passes => exact .track (among.trans grows) op joined passes
  | media among op frame joined passes => exact .media (among.trans grows) op frame joined passes

/-- The handler stays, and what it makes take effect is cleared. -/
def GateKept (connId : ConnId) (past : List Event) (op : Operation) (state : HubRoom) : Prop :=
  op.isDisconnect = false ∧
    ((⟨connId, .connection, op, state⟩ : Event).takesEffect = true →
      Cleared connId (⟨connId, .connection, op, state⟩ :: past))

section Handlers

variable {hub : HubState} {connId : ConnId} {world : World} {Value : Type}

theorem gateKept_of_quiet {op : Operation} (quiet : op.isQuiet = true) (past : List Event)
    (state : HubRoom) : GateKept connId past op state := by
  cases op with
  | read | lookup | backpressure | trySend =>
      exact ⟨rfl, fun effect => by cases effect⟩
  | _ => cases quiet

theorem meets_quiet {program : Handler Value}
    (performs : program.Performs fun op => op.isQuiet = true) :
    program.Meets (ownContract hub connId (GateKept connId)) (fun _ _ => True) world :=
  meets_of_performs performs (fun _ => gateKept_of_quiet) world

theorem meets_refusal (message : String) : (sendError hub connId message).Meets
    (ownContract hub connId (GateKept connId)) (fun _ _ => True) world :=
  meets_quiet (performs_sendError plumbing_isQuiet connId message)

/-- Once a handler is cleared it may send what it wants. -/
theorem meets_cleared {program : Handler Value}
    (performs : program.Performs fun op => op.isPlumbing = true)
    (cleared : Cleared connId world.own) :
    program.Meets (ownContract hub connId (GateKept connId)) (fun _ _ => True) world := by
  have keeps : program.Keeps (ownContract hub connId (GateKept connId))
      fun world => Cleared connId world.own := by
    refine performs.keeps ?_ ?_ fun _ _ _ => trivial
    · intro before after same holds
      exact (show after.own = before.own from same) ▸ holds
    · intro op world plain holds
      refine ⟨⟨?_, fun _ => holds.mono (List.suffix_cons _ _)⟩, holds.mono (List.suffix_cons _ _)⟩
      cases op <;> first | rfl | cases plain
  exact (keeps world cleared).mono fun _ _ _ => trivial

theorem meets_behindGate {next : Handler Unit}
    (passed : ∀ gate shared : HubRoom, gate.passesGate connId → next.Meets
      (ownContract hub connId (GateKept connId)) (fun _ _ => True)
      ⟨shared, ⟨connId, .connection, .read, gate⟩ :: world.own⟩) :
    (behindE2eeGate hub connId next).Meets (ownContract hub connId (GateKept connId))
      (fun _ _ => True) world := by
  refine meets_critical fun gate => ⟨gateKept_of_quiet rfl _ _, ?_⟩
  cases refusal : gate.room.bind (plaintextE2eeGate · connId) with
  | none => exact passed gate _ refusal
  | some message => exact meets_refusal message

theorem meets_transparent {refusal : String} {next : Handler Unit}
    (passed : ∀ mode shared : HubRoom, next.Meets (ownContract hub connId (GateKept connId))
      (fun _ _ => True) ⟨shared, ⟨connId, .connection, .read, mode⟩ :: world.own⟩) :
    (unlessAnonymous hub connId refusal next).Meets (ownContract hub connId (GateKept connId))
      (fun _ _ => True) world := by
  refine meets_critical fun mode => ⟨gateKept_of_quiet rfl _ _, ?_⟩
  split
  · exact meets_refusal refusal
  · exact passed mode _

theorem meets_handleChat (chat : ChatFrame) : (handleChat hub connId chat).Meets
    (ownContract hub connId (GateKept connId)) (fun _ _ => True) world := by
  refine meets_transparent fun mode _ => meets_critical fun check =>
    ⟨gateKept_of_quiet rfl _ _, ?_⟩
  split
  · exact meets_refusal _
  · next joined =>
      have joined : check.hasJoined connId = true := by
        unfold HubRoom.hasJoined
        simpa using joined
      refine meets_behindGate fun gate _ passes =>
        meets_nowMs fun atMs => meets_critical fun name =>
        ⟨gateKept_of_quiet rfl _ _, ?_⟩
      exact meets_cleared (performs_broadcastFrame plumbing_isPlumbing (relays_isPlumbing _))
        (.chat (List.suffix_cons _ _) joined passes)

theorem participantStateSection_updated {room : RoomState} {update : ParticipantStateFrame}
    {atMs : Nat} (updated : (participantStateSection room connId update atMs).2.isUpdated = true) :
    room.helloSeen connId = true ∧
      (room.e2eeRequired = false ∨ 1 ≤ publishedEpoch room connId) := by
  unfold participantStateSection at updated
  split at updated
  · cases updated
  · next existing found =>
      by_cases joined : existing.helloSeen = true
      · rw [if_neg (by simp [joined])] at updated
        by_cases refused : (room.e2eeRequired && publishedEpoch room connId == 0) = true
        · rw [if_pos refused] at updated
          cases updated
        · refine ⟨by simp [RoomState.helloSeen, found, joined], ?_⟩
          cases required : room.e2eeRequired with
          | false => exact .inl rfl
          | true => exact .inr (Nat.one_le_iff_ne_zero.mpr (by simpa [required] using refused))
      · rw [if_pos (by simp [joined])] at updated
        cases updated

theorem mediaTrackStateSection_updated {room : RoomState} {track : MediaTrackStateFrame}
    {atMs : Nat} (updated : (mediaTrackStateSection room connId track atMs).2.isUpdated = true) :
    ∃ sender, room.participants.get? connId = some sender ∧ sender.helloSeen = true ∧
      sender.participantId = track.participantId := by
  unfold mediaTrackStateSection at updated
  split at updated
  · cases updated
  · next sender found =>
      by_cases joined : sender.helloSeen = true
      · rw [if_neg (by simp [joined])] at updated
        by_cases own : sender.participantId = track.participantId
        · exact ⟨sender, found, joined, own⟩
        · rw [if_pos own] at updated
          cases updated
      · rw [if_pos (by simp [joined])] at updated
        cases updated

theorem meets_handleParticipantState (update : ParticipantStateFrame) :
    (handleParticipantState hub connId update).Meets (ownContract hub connId (GateKept connId))
      (fun _ _ => True) world := by
  refine meets_transparent fun mode _ => meets_nowMs fun atMs => meets_critical fun state => ?_
  cases found : state.room with
  | none =>
      refine ⟨⟨rfl, fun effect => ?_⟩, fun _ _ => trivial⟩
      simp [Event.takesEffect, found] at effect
  | some room =>
      have cleared : (participantStateSection room connId update atMs).2.isUpdated = true →
          ∀ past, Cleared connId (⟨connId, .connection, .participantState update atMs, state⟩ ::
            past) := by
        intro updated past
        obtain ⟨joined, free⟩ := participantStateSection_updated updated
        exact .state (List.suffix_refl _) found joined free
      refine ⟨⟨rfl, fun effect => cleared ?_ _⟩, ?_⟩
      · simpa [Event.takesEffect, found] using effect
      · dsimp only [Option.map_some, Option.getD_some]
        cases outcome : (participantStateSection room connId update atMs).2 with
        | ignored => exact fun _ _ => trivial
        | refused message => exact meets_refusal message
        | updated snapshot denyShareMax =>
            refine meets_cleared ?_ (cleared (by rw [outcome]; rfl) _)
            cases denyShareMax with
            | none => exact performs_broadcastFrame plumbing_isPlumbing (relays_isPlumbing _)
            | some maxScreenShares =>
                exact performs_bind (performs_sendError plumbing_isPlumbing connId _) fun _ =>
                  performs_broadcastFrame plumbing_isPlumbing (relays_isPlumbing _)

theorem meets_handleMediaTrackState (track : MediaTrackStateFrame) :
    (handleMediaTrackState hub connId track).Meets (ownContract hub connId (GateKept connId))
      (fun _ _ => True) world := by
  refine meets_transparent fun mode _ => meets_behindGate fun gate _ passes =>
    meets_nowMs fun atMs => meets_critical fun state => ?_
  cases found : state.room with
  | none =>
      refine ⟨⟨rfl, fun effect => ?_⟩, fun _ _ => trivial⟩
      simp [Event.takesEffect, found] at effect
  | some room =>
      have cleared : (mediaTrackStateSection room connId track atMs).2.isUpdated = true →
          ∀ past, Cleared connId (⟨connId, .connection, .mediaTrackState track atMs, state⟩ ::
            ⟨connId, .connection, .read, gate⟩ :: past) := by
        intro updated past
        obtain ⟨sender, here, joined, same⟩ := mediaTrackStateSection_updated updated
        refine .track (List.suffix_refl _) rfl ?_ passes
        simp [HubRoom.hasSender, found, here, joined, same]
      refine ⟨⟨rfl, fun effect => cleared ?_ _⟩, ?_⟩
      · simpa [Event.takesEffect, found] using effect
      · dsimp only [Option.map_some, Option.getD_some]
        cases outcome : (mediaTrackStateSection room connId track atMs).2 with
        | ignored => exact fun _ _ => trivial
        | refused message => exact meets_refusal message
        | updated snapshot denyShareMax =>
            refine meets_cleared ?_ (cleared (by rw [outcome]; rfl) _)
            exact performs_bind
              (performs_broadcastFrame plumbing_isPlumbing (relays_isPlumbing _)) fun _ =>
                performs_broadcastFrame plumbing_isPlumbing (relays_isPlumbing _)

/-- The fan-out of a checked frame behind the gate. -/
theorem meets_broadcastMedia {frame : KaigiFrame} {check gate : Event} {rest : List Event}
    (known : world.own = check :: gate :: rest)
    (media : (∃ segment, frame = .videoSegment segment) ∨ (∃ packet, frame = .audioPacket packet))
    (joined : check.before.hasJoined connId = true) (passes : gate.before.passesGate connId) :
    (broadcastFrame hub frame).Meets (ownContract hub connId (GateKept connId))
      (fun _ _ => True) world := by
  have cleared : ∀ state : HubRoom,
      Cleared connId (⟨connId, .connection, .fanout frame, state⟩ :: world.own) := by
    intro state
    rw [known]
    exact .media (List.suffix_refl _) rfl media joined passes
  exact meets_broadcastFrame (fun state => ⟨rfl, fun _ => cleared state⟩) fun _ =>
    gateKept_of_quiet

theorem meets_checkedMedia {check : RoomState → CheckOutcome} {frame : KaigiFrame}
    (media : (∃ segment, frame = .videoSegment segment) ∨ (∃ packet, frame = .audioPacket packet))
    (joined : ∀ room, check room = .passed → room.helloSeen connId = true) {refusal : String} :
    (unlessAnonymous hub connId refusal <| behindE2eeGate hub connId <|
      checked hub connId check <| broadcastFrame hub frame).Meets
        (ownContract hub connId (GateKept connId)) (fun _ _ => True) world := by
  refine meets_transparent fun mode _ => meets_behindGate fun gate _ passes =>
    meets_critical fun state => ⟨gateKept_of_quiet rfl _ _, ?_⟩
  cases outcome : (state.room.map check).getD .ignored with
  | ignored => exact fun _ _ => trivial
  | refused message => exact meets_refusal message
  | passed =>
      refine meets_broadcastMedia rfl media ?_ passes
      cases found : state.room with
      | none =>
          rw [found] at outcome
          cases outcome
      | some room =>
          rw [found] at outcome
          exact HubRoom.hasJoined_iff.mpr ⟨room, found, joined room outcome⟩

theorem meets_gated {frame : KaigiFrame} (gated : isGated frame = true) :
    (handleFrame hub connId frame).Meets (ownContract hub connId (GateKept connId))
      (fun _ _ => True) world := by
  cases frame with
  | chat chat => exact meets_handleChat chat
  | participantState update => exact meets_handleParticipantState update
  | mediaTrackState track => exact meets_handleMediaTrackState track
  | videoSegment segment =>
      exact meets_checkedMedia (.inl ⟨segment, rfl⟩) fun _ passed => (checkSender_passed passed).1
  | audioPacket packet =>
      exact meets_checkedMedia (.inr ⟨packet, rfl⟩) fun _ passed => (checkSender_passed passed).1
  | _ => cases gated

end Handlers

/-- The room requires encryption, and the connection has not published a key. -/
def HubRoom.lacksKey (state : HubRoom) (connId : ConnId) : Bool :=
  state.room.any fun room => room.e2eeRequired && publishedEpoch room connId == 0

/-- A media frame passes the check of its sender, which has published no key although the
room requires one, and which had not joined when the gate of the frame was evaluated. -/
def Event.evadesGate (event : Event) (earlier : List Event) : Bool :=
  match event.op, own event.connId .connection earlier with
  | .mediaTrackState track _, gate :: _ =>
      event.before.hasSender event.connId track.participantId &&
        event.before.lacksKey event.connId && !gate.before.hasJoined event.connId
  | .fanout (.videoSegment _), check :: gate :: _ | .fanout (.audioPacket _), check :: gate :: _ =>
      check.before.lacksKey event.connId && !gate.before.hasJoined event.connId
  | _, _ => false

/-- The sender has joined, and the room does not require encryption or the sender has
published a key. -/
def MaySend (hub : HubState) (connId : ConnId) (past : List Event) : Prop :=
  ∃ room, (sharedAfter hub past).room = some room ∧ room.helloSeen connId = true ∧
    (room.e2eeRequired = false ∨ ∃ publish ∈ past, publish.connId = connId ∧
      ∃ epoch, 1 ≤ epoch ∧ publish.publishes hub = some epoch)

section Runs

variable {hub : HubState} {connId : ConnId}

/-- Whoever has a key epoch has published it. -/
theorem Trace.published {history : List Event} (trace : Trace hub history)
    (published : 1 ≤ publishedEpoch (roomAfter hub history) connId) :
    ∃ publish ∈ history, publish.connId = connId ∧
      ∃ epoch, 1 ≤ epoch ∧ publish.publishes hub = some epoch := by
  refine Trace.room (fun past room => 1 ≤ publishedEpoch room connId → ∃ publish ∈ past,
    publish.connId = connId ∧ ∃ epoch, 1 ≤ epoch ∧ publish.publishes hub = some epoch)
    ?_ ?_ trace published
  · exact fun _ impossible => absurd impossible (Nat.not_succ_le_zero 0)
  · intro earlier event after _ _ _ ih left published
    have kept : publishedEpoch after connId =
        publishedEpoch (event.before.opened hub) connId → ∃ publish ∈ event :: earlier,
          publish.connId = connId ∧ ∃ epoch, 1 ≤ epoch ∧ publish.publishes hub = some epoch := by
      intro same
      obtain ⟨publish, member, own⟩ := ih (same ▸ published)
      exact ⟨publish, List.mem_cons_of_mem _ member, own⟩
    have none : after.e2eeEpochs.get? connId = none ∨ after.e2eeEpochs.get? connId = some 0 →
        False := by
      rintro (absent | zero)
      · simp [publishedEpoch, absent] at published
      · simp [publishedEpoch, zero] at published
    cases (Event.ledgerStep left).keyStep connId with
    | kept epochs => exact kept (by rw [publishedEpoch, epochs]; rfl)
    | entered _ epochs => exact (none (.inr epochs)).elim
    | @published frame op accepted own _ grows epochs =>
        obtain ⟨action, accepts⟩ := Option.ne_none_iff_exists'.mp accepted
        refine ⟨event, List.mem_cons_self, own, frame.epoch,
          Nat.one_le_of_lt grows, ?_⟩
        simp [Event.publishes, op, accepts]
    | acked _ _ _ _ _ _ epochs => exact kept (by rw [publishedEpoch, epochs]; rfl)
    | gone _ epochs => exact (none (.inl epochs)).elim

theorem gate_permits {room : RoomState} (passes : plaintextE2eeGate room connId = none)
    (joined : room.helloSeen connId = true) (transparent : room.anonymousMode = false) :
    room.e2eeRequired = false ∨ 1 ≤ publishedEpoch room connId := by
  unfold plaintextE2eeGate at passes
  split at passes
  · next absent => exact absurd absent (RoomState.present_of_joined joined)
  · next sender found =>
      have joined : sender.helloSeen = true := by simpa [RoomState.helloSeen, found] using joined
      cases required : room.e2eeRequired with
      | false => exact .inl rfl
      | true =>
          rw [if_neg (by simp [joined, transparent, required])] at passes
          split at passes
          · cases passes
          · next published => exact .inr (Nat.one_le_iff_ne_zero.mpr published)

theorem own_suffix {connId : ConnId} {task : Task} {history rest : List Event} {event : Event}
    (among : event :: rest <:+ own connId task history) :
    ∃ newer older, history = newer ++ event :: older ∧ own connId task older = rest ∧
      event.connId = connId ∧ event.task = task := by
  obtain ⟨front, split⟩ := among
  obtain ⟨first, second, rfl, _, tail⟩ := List.filter_eq_append_iff.mp split.symm
  obtain ⟨newer, older, rfl, _, owns, same⟩ := List.filter_eq_cons_iff.mp tail
  simp only [Bool.and_eq_true, beq_iff_eq] at owns
  exact ⟨first ++ newer, older, by simp, same, owns.1, owns.2⟩

theorem own_head {connId : ConnId} {task : Task} {history rest : List Event} {event : Event}
    (own : Hub.own connId task history = event :: rest) :
    ∃ newer older, history = newer ++ event :: older ∧ Hub.own connId task older = rest ∧
      event.connId = connId ∧ event.task = task := by
  refine own_suffix ?_
  rw [own]

/-- The handler of a gated frame at the moment at which the frame takes effect: what it
has done since it began, with the latest event first. -/
structure Effective (hub : HubState) (connId : ConnId) (start : List Event) (event : Event)
    (since : List Event) : Prop where
  trace : Trace hub (event :: since ++ start)
  own : event.connId = connId ∧ event.task = .connection
  stays : ∀ other ∈ since, other.op.isDisconnect = true → other.connId ≠ connId
  cleared : Cleared connId (Hub.own connId .connection (event :: since))

variable {start since newer older : List Event} {event other : Event}

/-- What an event since the beginning found is the state that the events before it left. -/
theorem Effective.found (effective : Effective hub connId start event since)
    (split : event :: since = newer ++ other :: older) :
    other.before = sharedAfter hub (older ++ start) ∧ older <:+ since := by
  have trace := effective.trace
  rw [split, List.append_assoc, List.cons_append] at trace
  refine ⟨trace.lawful.2.1, ?_⟩
  cases newer with
  | nil =>
      obtain ⟨_, rfl⟩ := List.cons.inj split
      exact List.suffix_refl _
  | cons _ rest => exact ⟨rest ++ [other], by rw [(List.cons.inj split).2]; simp⟩

/-- Whoever had joined at a moment since then has joined ever since, in the same room. -/
theorem Effective.while_joined (effective : Effective hub connId start event since)
    (inv : RoomState → Prop) (kept : ∀ earlier event room after, Lawful hub earlier event →
      event.before.room = some room → (event.after hub).room = some after → inv room → inv after)
    {middle : List Event} (later : middle <:+ since) (earlier : older <:+ middle)
    {room : RoomState} (was : (sharedAfter hub (older ++ start)).room = some room)
    (joined : room.helloSeen connId = true) (holds : inv room) :
    ∃ current, (sharedAfter hub (middle ++ start)).room = some current ∧
      current.helloSeen connId = true ∧ inv current := by
  obtain ⟨front, rfl⟩ := later
  obtain ⟨between, rfl⟩ := earlier
  have trace := effective.trace
  have regrouped : event :: (front ++ (between ++ older)) ++ start =
      (event :: front) ++ (between ++ (older ++ start)) := by simp
  rw [regrouped] at trace
  rw [List.append_assoc]
  exact (trace.suffix _).while_joined inv kept was joined holds fun current member =>
    effective.stays current (by simp [member])

/-- The gate let the joined sender of a transparent room pass. -/
theorem Effective.maySend_at (effective : Effective hub connId start event since)
    {final : RoomState} (found : event.before.room = some final)
    (transparent : final.anonymousMode = false)
    (split : event :: since = newer ++ other :: older)
    (joined : other.before.hasJoined connId = true)
    (free : ∀ room, other.before.room = some room → room.helloSeen connId = true →
      room.anonymousMode = false → room.e2eeRequired = false ∨ 1 ≤ publishedEpoch room connId) :
    ∃ middle, start <:+ middle ∧ middle <:+ since ++ start ∧ MaySend hub connId middle := by
  obtain ⟨before, among⟩ := effective.found split
  obtain ⟨now, _⟩ :=
    effective.found (show event :: since = [] ++ event :: since from rfl)
  obtain ⟨room, here, hello⟩ := HubRoom.hasJoined_iff.mp joined
  have was : (sharedAfter hub (older ++ start)).room = some room := before ▸ here
  have mode : room.anonymousMode = false := by
    by_contra anonymous
    obtain ⟨current, left, _, still⟩ := effective.while_joined (·.anonymousMode = true)
      (fun _ _ _ _ lawful was left holds => by
        have step := lawful.step left
        rw [HubRoom.opened_of_some was] at step
        exact step.anonymous holds)
      (List.suffix_refl since) among was hello (by simpa using anonymous)
    rw [← now, found] at left
    cases left
    rw [transparent] at still
    cases still
  have past : Trace hub (older ++ start) := by
    have trace := effective.trace
    rw [split, List.append_assoc, List.cons_append] at trace
    exact trace.lawful.1
  refine ⟨older ++ start, List.suffix_append .., ?_, room, was, hello, ?_⟩
  · obtain ⟨front, rfl⟩ := among
    exact ⟨front, by simp⟩
  · refine (free room here hello mode).imp_right fun published => past.published ?_
    rwa [roomAfter_of_some was]

theorem HubRoom.passesGate.free {state : HubRoom} (passes : state.passesGate connId)
    (room : RoomState) (found : state.room = some room) (joined : room.helloSeen connId = true)
    (transparent : room.anonymousMode = false) :
    room.e2eeRequired = false ∨ 1 ≤ publishedEpoch room connId := by
  refine gate_permits ?_ joined transparent
  simpa [HubRoom.passesGate, found] using passes

theorem HubRoom.joined_of_hasSender {state : HubRoom} {participantId : String}
    (sender : state.hasSender connId participantId = true) : state.hasJoined connId = true := by
  simp only [HubRoom.hasSender, Option.any_eq_true, Bool.and_eq_true] at sender
  obtain ⟨room, found, participant, here, joined, _⟩ := sender
  refine HubRoom.hasJoined_iff.mpr ⟨room, found, ?_⟩
  simp [RoomState.helloSeen, here, joined]

theorem HubRoom.free_of_lacksKey {state : HubRoom} (key : state.lacksKey connId = false)
    (room : RoomState) (found : state.room = some room) :
    room.e2eeRequired = false ∨ 1 ≤ publishedEpoch room connId := by
  simp only [HubRoom.lacksKey, found, Option.any_some] at key
  cases required : room.e2eeRequired with
  | false => exact .inl rfl
  | true => exact .inr (Nat.one_le_iff_ne_zero.mpr (by simpa [required] using key))

/-- A frame takes effect only after a moment at which its sender might send it, unless
it evades the gate. -/
theorem Effective.maySend (effective : Effective hub connId start event since)
    {final : RoomState} (found : event.before.room = some final)
    (transparent : final.anonymousMode = false)
    (guarded : ∀ newer other earlier, event :: since ++ start = newer ++ other :: earlier →
      other.evadesGate earlier = false) :
    ∃ middle, start <:+ middle ∧ middle <:+ since ++ start ∧ MaySend hub connId middle := by
  have sends : ∀ {newer older : List Event} {other : Event},
      event :: since = newer ++ other :: older → other.before.hasJoined connId = true →
      (∀ room, other.before.room = some room → room.helloSeen connId = true →
        room.anonymousMode = false → room.e2eeRequired = false ∨ 1 ≤ publishedEpoch room connId) →
      ∃ middle, start <:+ middle ∧ middle <:+ since ++ start ∧ MaySend hub connId middle :=
    effective.maySend_at found transparent
  cases effective.cleared with
  | @state applied _ room among here joined free =>
      obtain ⟨newer, older, split, _⟩ := own_suffix among
      refine sends split (HubRoom.hasJoined_iff.mpr ⟨room, here, joined⟩) fun current same _ _ => ?_
      rw [here] at same
      cases same
      exact free
  | @chat gate check rest among joined passes =>
      obtain ⟨newer, older, split, own, _⟩ := own_suffix among
      obtain ⟨between, oldest, rfl, _⟩ := own_head own
      have regrouped : event :: since = (newer ++ gate :: between) ++ check :: oldest := by
        rw [split]
        simp
      obtain ⟨looked, _⟩ := effective.found regrouped
      obtain ⟨before, among⟩ := effective.found split
      obtain ⟨room, was, hello⟩ := HubRoom.hasJoined_iff.mp joined
      obtain ⟨current, still, stays, _⟩ := effective.while_joined (fun _ => True)
        (fun _ _ _ _ _ _ _ _ => trivial) among ⟨between ++ [check], by simp⟩ (looked ▸ was) hello
        trivial
      exact sends split (HubRoom.hasJoined_iff.mpr ⟨current, before ▸ still, stays⟩) passes.free
  | @track applied gate rest track atMs among op sender passes =>
      obtain ⟨newer, older, split, own, same, _⟩ := own_suffix among
      cases key : applied.before.lacksKey connId with
      | false =>
          exact sends split (HubRoom.joined_of_hasSender sender) fun room here _ _ =>
            HubRoom.free_of_lacksKey key room here
      | true =>
          have guard := guarded newer applied (older ++ start) (by rw [split]; simp)
          unfold Event.evadesGate at guard
          rw [same, op, own_append, own] at guard
          have joined : gate.before.hasJoined connId = true := by simpa [sender, key] using guard
          obtain ⟨between, oldest, rfl, _⟩ := own_head own
          have regrouped : event :: since = (newer ++ applied :: between) ++ gate :: oldest := by
            rw [split]
            simp
          exact sends regrouped joined passes.free
  | @media fan check gate rest frame among op media joined passes =>
      obtain ⟨newer, older, split, own, same, _⟩ := own_suffix among
      obtain ⟨between, oldest, rfl, ownOld, _⟩ :=
        own_head own
      have regrouped : event :: since = (newer ++ fan :: between) ++ check :: oldest := by
        rw [split]
        simp
      cases key : check.before.lacksKey connId with
      | false =>
          exact sends regrouped joined fun room here _ _ => HubRoom.free_of_lacksKey key room here
      | true =>
          have guard := guarded newer fan (between ++ check :: oldest ++ start)
            (by rw [split]; simp)
          have joined : gate.before.hasJoined connId = true := by
            unfold Event.evadesGate at guard
            rw [same, op, own_append, own] at guard
            rcases media with ⟨segment, rfl⟩ | ⟨packet, rfl⟩ <;> simpa [key] using guard
          obtain ⟨further, last, rfl, _⟩ := own_head ownOld
          have regrouped : event :: since =
              (newer ++ fan :: between ++ check :: further) ++ gate :: last := by
            rw [split]
            simp
          exact sends regrouped joined passes.free

/-- When a gated frame takes effect, its handler is where the proofs above want it. -/
theorem Handling.effective {frame : KaigiFrame} {history : List Event} {system : System}
    {clock : Nat} (handling : Handling hub connId frame start history system)
    (gated : isGated frame = true) (made : system.event (.advance connId clock) = some event)
    (effect : event.takesEffect = true) :
    ∃ since, history = since ++ start ∧ Effective hub connId start event since := by
  have run := handling.run
  obtain ⟨since, rfl, kept⟩ := handling.kept fun _ => meets_gated gated
  obtain ⟨same, task, _, _, cleared⟩ := kept.next made
  obtain ⟨next, stepped⟩ := kept.possible made
  have later : Run hub (event :: since ++ start) next := by
    have later := run.stepped stepped
    rw [made] at later
    exact later
  refine ⟨since, rfl, later.trace.1, ⟨same, task⟩, fun other member leaves own => ?_, ?_⟩
  · obtain ⟨newer, older, rfl⟩ := List.append_of_mem member
    have tasks : other.op.isTasks = true := by
      cases op : other.op <;> rw [op] at leaves <;> first | rfl | cases leaves
    have happened : other ∈ newer ++ other :: older ++ start := by simp
    obtain ⟨_, _, _, lawful⟩ := run.lawful happened
    have stays := (kept.admitted newer other older rfl own (lawful.ownTask tasks)).1
    rw [leaves] at stays
    cases stays
  · obtain ⟨actor, _, op, before⟩ := event
    cases same
    cases task
    rw [own_cons_self]
    exact cleared effect

/-- In a run in which no frame evades the gate, a gated frame in a transparent room takes
effect only if at some moment since its handler began the sender had joined, and the
room did not require encryption or the sender had published a key. -/
theorem e2eeGate_holds {frame : KaigiFrame} {history : List Event} {system : System} {clock : Nat}
    {room : RoomState} (handling : Handling hub connId frame start history system)
    (gated : isGated frame = true) (made : system.event (.advance connId clock) = some event)
    (effect : event.takesEffect = true) (found : event.before.room = some room)
    (transparent : room.anonymousMode = false)
    (guarded : ∀ newer other earlier, event :: history = newer ++ other :: earlier →
      other.evadesGate earlier = false) :
    ∃ middle, start <:+ middle ∧ middle <:+ history ∧ MaySend hub connId middle := by
  obtain ⟨since, rfl, effective⟩ := handling.effective gated made effect
  exact effective.maySend found transparent guarded

end Runs

def chatOfAlice : KaigiFrame :=
  .chat {
    sentAtMs := 1
    fromParticipantId := "alice@sora"
    fromDisplayName := none
    text := "hello" }

def gateHub : HubState :=
  scriptedHub [helloAs "alice@sora", keyEpochOfAlice 1, chatOfAlice]

/-- Alice publishes a key and then sends a chat message. -/
def gateScript : List Move :=
  [.connect 1 0] ++ sendsFrame 1 0 1 25 ++ sendsFrame 1 1 2 7 ++
    [.receive 1 (.binary [0, 0, 0, 1, 2])]

/-- The next step of the connection makes its frame take effect in a transparent room. -/
def effectCheck (connId : ConnId) (system : System) (check : Event → Bool) : Bool :=
  (system.event (.advance connId 0)).any fun event => event.takesEffect &&
    (event.before.room.any fun room => !room.anonymousMode) && check event

theorem effectCheck_iff {connId : ConnId} {system : System} {check : Event → Bool} :
    effectCheck connId system check = true ↔
      ∃ event room, system.event (.advance connId 0) = some event ∧ event.takesEffect = true ∧
        event.before.room = some room ∧ room.anonymousMode = false ∧ check event = true := by
  unfold effectCheck
  simp only [Option.any_eq_true, Bool.and_eq_true, Bool.not_eq_true']
  constructor
  · rintro ⟨event, made, ⟨effect, room, found, transparent⟩, checks⟩
    exact ⟨event, room, made, effect, found, transparent, checks⟩
  · rintro ⟨event, room, made, effect, found, transparent, checks⟩
    exact ⟨event, made, ⟨effect, room, found, transparent⟩, checks⟩

theorem e2eeGate_holds_script :
    ∃ (frame : KaigiFrame) (start history : List Event) (system : System) (event : Event)
      (middle : List Event), Handling gateHub 1 frame start history system ∧
        isGated frame = true ∧ system.event (.advance 1 0) = some event ∧
        event.takesEffect = true ∧ start <:+ middle ∧ middle <:+ history ∧
        MaySend gateHub 1 middle := by
  obtain ⟨frame, start, history, system, handling, checks⟩ := Handling.of_script gateHub 1
    gateScript (List.replicate 5 (.advance 1 3)) (fun frame _ history system => isGated frame &&
      effectCheck 1 system fun event =>
        everyEvent (fun earlier other => !other.evadesGate earlier) (event :: history))
    (by decide +kernel)
  obtain ⟨gated, checks⟩ := (Bool.and_eq_true _ _).mp checks
  obtain ⟨event, room, made, effect, found, transparent, every⟩ := effectCheck_iff.mp checks
  obtain ⟨middle, since, among, may⟩ := e2eeGate_holds handling gated made effect found transparent
    fun newer other earlier split => by
      simpa using everyEvent_iff.mp every newer other earlier split
  exact ⟨frame, start, history, system, event, middle, handling, gated, made, effect, since,
    among, may⟩

def segmentOfBob : KaigiFrame :=
  .videoSegment {
    sentAtMs := 1
    participantId := "bob@sora"
    segmentNumber := 1
    frameWidth := 1
    frameHeight := 1
    frameDurationNs := 1
    payload := [0] }

def admitBob : KaigiFrame :=
  .moderation { sentAtMs := 1, target := .participant "bob@sora", action := .admitFromWaiting }

def evasionHub : HubState :=
  scriptedHub [helloAs "alice@sora", waitingRoomPolicy, helloAs "bob@sora", segmentOfBob, admitBob]

/-- Alice turns the waiting room on and requires encryption, bob waits and sends a video
segment. -/
def evasionScript : List Move :=
  [.connect 1 0, .connect 2 0] ++ sendsFrame 1 0 1 28 ++ sendsFrame 1 1 2 13 ++
    sendsFrame 2 2 3 11 ++ [.receive 2 (.binary [0, 0, 0, 1, 3])]

/-- Bob's handler passes the gate, alice lets bob in, and the sender check passes. -/
def admissionScript : List Move :=
  [.advance 2 5, .advance 2 5] ++ sendsFrame 1 4 6 5 ++ [.advance 2 7]

/-- At no moment since the frame began to be handled might its sender send it. -/
def neverMaySend (connId : ConnId) (start history : List Event) (hub : HubState) : Bool :=
  (history.all fun event => event.connId != connId || (event.publishes hub).isNone) &&
    history.tails.all fun middle => middle.length < start.length ||
      (sharedAfter hub middle).room.all fun room =>
        !room.helloSeen connId || room.e2eeRequired

theorem e2eeGate_fails :
    ¬ ∀ (hub : HubState) (connId : ConnId) (frame : KaigiFrame) (start history : List Event)
      (system : System) (clock : Nat) (event : Event) (room : RoomState),
        Handling hub connId frame start history system → isGated frame = true →
        system.event (.advance connId clock) = some event → event.takesEffect = true →
        event.before.room = some room → room.anonymousMode = false →
        ∃ middle, start <:+ middle ∧ middle <:+ history ∧ MaySend hub connId middle := by
  intro claimed
  obtain ⟨frame, start, history, system, handling, checks⟩ := Handling.of_script evasionHub 2
    evasionScript admissionScript (fun frame start history system => isGated frame &&
      effectCheck 2 system fun _ => neverMaySend 2 start history evasionHub) (by decide +kernel)
  obtain ⟨gated, checks⟩ := (Bool.and_eq_true _ _).mp checks
  obtain ⟨event, room, made, effect, found, transparent, never⟩ := effectCheck_iff.mp checks
  obtain ⟨middle, since, among, current, here, joined, free⟩ := claimed evasionHub 2 frame start
    history system 0 event room handling gated made effect found transparent
  simp only [neverMaySend, Bool.and_eq_true, List.all_eq_true, Bool.or_eq_true, bne_iff_ne,
    Option.isNone_iff_eq_none, List.mem_tails, decide_eq_true_eq, Option.all_eq_true,
    Bool.not_eq_true'] at never
  obtain ⟨silent, locked⟩ := never
  rcases free with open' | ⟨publish, member, own, epoch, _, publishes⟩
  · have required := ((locked middle among).resolve_left (Nat.not_lt.mpr since.length_le) current
      here).resolve_left (by simp [joined])
    rw [open'] at required
    cases required
  · rw [(silent publish (among.subset member)).resolve_left (by simp [own])] at publishes
    cases publishes

end Kaigi.Hub
