import Kaigi.Hub.BillingTask
import Kaigi.Hub.E2eeGate
import Kaigi.Hub.HandlerRules
import Kaigi.Hub.Identities
import Kaigi.Hub.KeyRotation
import Kaigi.Hub.ModeSeparation

/-!
# Senders are authentic

Many frames name their own sender. A handler looks at the sender in one critical section, and
broadcasts in later ones, when the room may have changed. Still nobody speaks for anybody else:
whoever has been seen under a name keeps it until its own task lets it go.
-/

set_option autoImplicit false

namespace Kaigi.Hub

open Collections Wire Interleaving

/-- How a frame names its sender. -/
inductive Sender where
  | participant (participantId : String)
  | handle (participantHandle : String)
  | leaver (participantHandle : String)

/-- The sender that a frame names. A key update of epoch 0 is the notice of a leave. -/
def senderOf : KaigiFrame → Option Sender
  | .chat chat => some (.participant chat.fromParticipantId)
  | .mediaCapability cap => some (.participant cap.participantId)
  | .mediaTrackState track => some (.participant track.participantId)
  | .videoSegment segment => some (.participant segment.participantId)
  | .audioPacket packet => some (.participant packet.participantId)
  | .deviceCapability cap => some (.participant cap.participantId)
  | .mediaProfileNegotiation profile => some (.participant profile.participantId)
  | .recordingNotice notice => some (.participant notice.participantId)
  | .e2eeKeyEpoch keyEpoch => some (.participant keyEpoch.participantId)
  | .keyRotationAck ack => some (.participant ack.participantId)
  | .roleGrant grant => some (.participant grant.grantedBy)
  | .roleRevoke revoke => some (.participant revoke.revokedBy)
  | .moderationSigned signed => some (.participant signed.issuedBy)
  | .groupKeyUpdate update =>
      some (if update.epoch = 0 then .leaver update.participantHandle
        else .handle update.participantHandle)
  | .encryptedControl enc => some (.handle enc.senderHandle)
  | .anonEncryptedPayload enc => some (.handle enc.senderHandle)
  | _ => none

/-- The connection has joined anonymously under that handle. -/
def HubRoom.hasHandle (state : HubRoom) (connId : ConnId) (participantHandle : String) : Bool :=
  state.room.any fun room => (room.participants.get? connId).any fun sender =>
    sender.helloSeen && sender.anonymousMode && sender.participantHandle == some participantHandle

/-- The connection has joined under that name. -/
def HubRoom.knows (state : HubRoom) (connId : ConnId) : Sender → Bool
  | .participant participantId => state.hasSender connId participantId
  | .handle participantHandle => state.hasHandle connId participantHandle
  | .leaver _ => false

/-- The event removes the connection, which had that handle. -/
def Event.letsGo (event : Event) (participantHandle : String) : Prop :=
  event.op.isDisconnect = true ∧ ∃ room participant, event.before.room = some room ∧
    room.participants.get? event.connId = some participant ∧
      participant.participantHandle = some participantHandle

/-- The event shows the connection under that name, and the connection stays. -/
def Event.showsSender (hub : HubState) (event : Event) (connId : ConnId) (sender : Sender) : Prop :=
  event.op.isDisconnect = false ∧
    (event.before.knows connId sender = true ∨ (event.after hub).knows connId sender = true)

/-- The participant id that a handler finds in the room. -/
def HubRoom.nameOf (state : HubRoom) (connId : ConnId) : String :=
  ((state.room.bind fun room => room.participants.get? connId).map (·.participantId)).getD
    "unknown"

/-- The task has seen its connection under that name, and has not let it go since. -/
inductive Vouched (hub : HubState) (connId : ConnId) (past : List Event) : Sender → Prop where
  | shown {sender : Sender} {newer older : List Event} {check : Event} :
      past = newer ++ check :: older → check.showsSender hub connId sender →
      (∀ event ∈ newer, event.op.isDisconnect = false) → Vouched hub connId past sender
  | named {newer middle older : List Event} {check look : Event} :
      past = newer ++ look :: (middle ++ check :: older) →
      check.before.hasJoined connId = true →
      (∀ event ∈ newer ++ look :: (middle ++ [check]), event.op.isDisconnect = false) →
      Vouched hub connId past (.participant (look.before.nameOf connId))
  | left {participantHandle : String} {leave : Event} : leave ∈ past →
      leave.letsGo participantHandle → Vouched hub connId past (.leaver participantHandle)

section Handlers

variable {hub : HubState} {connId : ConnId} {past : List Event} {sender : Sender}

theorem Vouched.cons (vouched : Vouched hub connId past sender) {event : Event}
    (stays : event.op.isDisconnect = false) : Vouched hub connId (event :: past) sender := by
  cases vouched with
  | @shown _ newer older check split shows since =>
      subst split
      have split : event :: (newer ++ check :: older) = (event :: newer) ++ check :: older := rfl
      exact .shown split shows (List.forall_mem_cons.mpr ⟨stays, since⟩)
  | @named newer middle older check look split joined since =>
      subst split
      have split : event :: (newer ++ look :: (middle ++ check :: older)) =
          (event :: newer) ++ look :: (middle ++ check :: older) := rfl
      exact .named split joined (List.forall_mem_cons.mpr ⟨stays, since⟩)
  | left member lets => exact .left (List.mem_cons_of_mem _ member) lets

theorem Vouched.of_latest {event : Event} (shows : event.showsSender hub connId sender) :
    Vouched hub connId (event :: past) sender := by
  have split : event :: past = [] ++ event :: past := rfl
  exact .shown split shows (List.forall_mem_nil _)

/-- The sender has been looked up in a state in which it was known. -/
theorem Vouched.of_read {state : HubRoom} (known : state.knows connId sender = true) :
    Vouched hub connId (⟨connId, .connection, .read, state⟩ :: past) sender :=
  .of_latest ⟨rfl, .inl known⟩

/-- A frame with a sender is sent only by a task that has seen it. -/
def SpeaksTruly (hub : HubState) (connId : ConnId) (past : List Event) (op : Operation)
    (_ : HubRoom) : Prop :=
  ∀ frame sender, op.frame? = some frame → senderOf frame = some sender →
    Vouched hub connId past sender

/-- The contract of a task that speaks for nobody else. -/
abbrev senderContract (hub : HubState) (connId : ConnId) :
    Contract HubRoom World Operation HubError :=
  ownContract hub connId (SpeaksTruly hub connId)

abbrev Speaks (hub : HubState) (connId : ConnId) {Value : Type} (program : Handler Value)
    (world : World) : Prop :=
  program.Meets (senderContract hub connId) (fun _ _ => True) world

theorem senderOf_private {frame : KaigiFrame} (alone : isPrivate frame = true) :
    senderOf frame = none := by
  cases frame <;> first | rfl | cases alone

theorem senderOf_ack {frame : KaigiFrame} (acks : isAck frame = true) : senderOf frame = none := by
  cases frame <;> first | rfl | cases acks

theorem senderOf_managed {frame : KaigiFrame} (managed : isManaged frame = true) :
    senderOf frame = none := by
  cases frame <;> first | rfl | cases managed

theorem speaks_parts : AdmitsParts (SpeaksTruly hub connId) := by
  intro op past state part frame sender carried named
  cases op with
  | trySend target message =>
      cases message with
      | binary sent =>
          cases carried
          rw [senderOf_private part] at named
          cases named
      | _ => cases carried
  | fanout => cases part
  | _ => cases carried

/-- Frames may be broadcast whose senders the history vouches for as long as nobody leaves. -/
theorem handlerRules_of_vouched (inv : List Event → Prop) (spoken : Sender → Prop)
    (stays : ∀ past event, event.op.isDisconnect = false → inv past → inv (event :: past))
    (vouches : ∀ past sender, spoken sender → inv past → Vouched hub connId past sender) :
    HandlerRules hub (fun frame => ∀ sender, senderOf frame = some sender → spoken sender)
      fun program => program.Keeps (senderContract hub connId) fun world => inv world.own where
  toPartRules := partRules_of_inv fun _ _ state part start =>
    ⟨speaks_parts _ _ state part, stays _ _ (Operation.isPart_stays part).2 start⟩
  managed managed sender named := by
    rw [senderOf_managed managed] at named
    cases named
  ack acks _ := by
    refine .atomic (stable_own inv) (fun world _ => ?_) (fun world => stays _ _ rfl) fun _ =>
      .done (stable_own inv) _
    intro frame sender carried named
    cases carried
    rw [senderOf_ack acks] at named
    cases named
  broadcast {frame} may := by
    -- Apart from its frame, a broadcast sends nothing but error frames.
    have plumbing : Plumbing fun op => op.isDisconnect = false ∧ ∀ sent sender,
        op.frame? = some sent → senderOf sent = some sender → spoken sender := by
      refine ⟨⟨rfl, ?_⟩, fun _ => ⟨rfl, ?_⟩, fun _ _ => ⟨rfl, ?_⟩, fun _ _ => ⟨rfl, ?_⟩⟩
      all_goals
        intro sent sender carried named
        cases carried
      cases named
    have relays : Relays (fun op => op.isDisconnect = false ∧ ∀ sent sender,
        op.frame? = some sent → senderOf sent = some sender → spoken sender) frame := by
      refine ⟨⟨rfl, ?_⟩, fun _ => ⟨rfl, ?_⟩⟩
      all_goals
        intro sent sender carried named
        cases carried
        exact may sender named
    refine (performs_broadcastFrame plumbing relays).keeps (stable_own inv) ?_
      fun _ _ _ => trivial
    intro op world allowed start
    exact ⟨fun sent sender carried named => vouches _ sender (allowed.2 sent sender carried named)
      start, stays _ _ allowed.1 start⟩

/-- Without any knowledge a task broadcasts the frames that name no sender. -/
theorem handlerRules_nameless :
    HandlerRules hub (fun frame => ∀ sender, senderOf frame = some sender → False)
      fun program => program.Keeps (senderContract hub connId) fun _ => True :=
  handlerRules_of_vouched (fun _ => True) (fun _ => False) (fun _ _ _ _ => trivial)
    fun _ _ impossible _ => impossible.elim

/-- Once it has seen a sender, it broadcasts what names that sender, too. -/
theorem handlerRules_sender (hub : HubState) (connId : ConnId) (sender : Sender) :
    HandlerRules hub (fun frame => ∀ named, senderOf frame = some named → named = sender)
      fun program => program.Keeps (senderContract hub connId) fun world =>
        Vouched hub connId world.own sender :=
  handlerRules_of_vouched (fun past => Vouched hub connId past sender) (· = sender)
    (fun _ _ stays vouched => vouched.cons stays) fun _ _ same vouched => same ▸ vouched

variable {world : World} {next : Handler Unit}

/-- A program that is left to broadcast what names a sender that has been seen. -/
theorem speaks_after {program : Handler Unit} (vouched : Vouched hub connId world.own sender)
    (keeps : program.Keeps (senderContract hub connId) fun world =>
      Vouched hub connId world.own sender) : Speaks hub connId program world :=
  (keeps world vouched).mono fun _ _ _ => trivial

theorem speaks_broadcast {frame : KaigiFrame} (named : senderOf frame = some sender)
    (vouched : Vouched hub connId world.own sender) :
    Speaks hub connId (broadcastFrame hub frame) world :=
  speaks_after vouched <| (handlerRules_sender hub connId sender).broadcast fun _ same =>
    Option.some.inj (same.symm.trans named)

end Handlers

/-! ### What the checks have seen -/

section Checks

variable {hub : HubState} {connId : ConnId} {state : HubRoom} {room : RoomState}

theorem HubRoom.hasSender_of_get {participantId : String} {sender : ParticipantState}
    (found : state.room = some room) (present : room.participants.get? connId = some sender)
    (joined : sender.helloSeen = true) (named : sender.participantId = participantId) :
    state.hasSender connId participantId = true := by
  simp [HubRoom.hasSender, found, present, joined, named]

theorem HubRoom.hasHandle_of_get {participantHandle : String} {sender : ParticipantState}
    (found : state.room = some room) (present : room.participants.get? connId = some sender)
    (joined : sender.helloSeen = true) (anonymous : sender.anonymousMode = true)
    (named : sender.participantHandle = some participantHandle) :
    state.hasHandle connId participantHandle = true := by
  simp [HubRoom.hasHandle, found, present, joined, anonymous, named]

theorem hasSender_of_checkSender {participantId : String} {further : Option String}
    (found : state.room = some room)
    (passed : checkSender room connId participantId further = .passed) :
    state.hasSender connId participantId = true := by
  unfold checkSender at passed
  split at passed
  · cases passed
  · next sender present =>
      split at passed
      · cases passed
      · next joined =>
          split at passed
          · cases passed
          · next same =>
              exact HubRoom.hasSender_of_get found present (by simpa using joined)
                (not_not.mp same)

theorem hasSender_of_authorized {signerId claim signatureHex action : String} {valid : Bool}
    (found : state.room = some room)
    (authorized : authorizeHostAction room connId signerId claim signatureHex action valid = none) :
    state.hasSender connId signerId = true := by
  unfold authorizeHostAction at authorized
  split at authorized
  · cases authorized
  · next sender present =>
      split at authorized
      · cases authorized
      · next joined =>
          split at authorized
          · cases authorized
          · split at authorized
            · cases authorized
            · next same =>
                exact HubRoom.hasSender_of_get found present (by simpa using joined)
                  (not_not.mp same)

theorem hasSender_of_moderationSigned {signed : ModerationSignedFrame}
    (found : state.room = some room)
    (passed : moderationSignedCheck hub room connId signed = .passed) :
    state.hasSender connId signed.issuedBy = true := by
  unfold moderationSignedCheck at passed
  split at passed
  · cases passed
  · next sender present =>
      split at passed
      · cases passed
      · next joined =>
          split at passed
          · cases passed
          · split at passed
            · cases passed
            · next same =>
                exact HubRoom.hasSender_of_get found present (by simpa using joined)
                  (not_not.mp same)

/-- An anonymous participant that has joined is known by its handle. -/
theorem hasHandle_of_validated {participant : ParticipantState}
    {participantHandle mismatch : String} (found : state.room = some room)
    (present : room.participants.get? connId = some participant)
    (valid : validateAnonSender participant participantHandle mismatch = none) :
    state.hasHandle connId participantHandle = true := by
  obtain ⟨joined, anonymous, named⟩ := validateAnonSender_passed valid
  exact HubRoom.hasHandle_of_get found present joined anonymous named

theorem hasHandle_of_groupKeyUpdate {update : GroupKeyUpdateFrame} (found : state.room = some room)
    (relays : (groupKeyUpdateSection room connId update).2 = .relay) :
    state.hasHandle connId update.participantHandle = true ∧ update.epoch ≠ 0 := by
  unfold groupKeyUpdateSection at relays
  split at relays
  · cases relays
  · split at relays
    · cases relays
    · split at relays
      · cases relays
      · next participant present =>
          split at relays
          · cases relays
          · next named =>
              refine ⟨hasHandle_of_validated found present named, ?_⟩
              intro zero
              simp [shouldApplyGroupKeyUpdate, zero] at relays

theorem hasHandle_of_encryptedControl {enc : EncryptedControlFrame} (found : state.room = some room)
    (relays : encryptedControlOutcome room connId enc = .relay) :
    state.hasHandle connId enc.senderHandle = true := by
  unfold encryptedControlOutcome at relays
  split at relays
  · cases relays
  · split at relays
    · cases relays
    · split at relays
      · cases relays
      · next participant present =>
          split at relays
          · cases relays
          · next valid =>
              exact hasHandle_of_validated found present (Option.or_eq_none_iff.mp valid).1

theorem hasHandle_of_anonEncryptedPayload {enc : AnonEncryptedPayloadFrame}
    (found : state.room = some room)
    (relays : anonEncryptedPayloadOutcome room connId enc = .relay) :
    state.hasHandle connId enc.senderHandle = true := by
  unfold anonEncryptedPayloadOutcome at relays
  split at relays
  · cases relays
  · split at relays
    · cases relays
    · split at relays
      · cases relays
      · split at relays
        · cases relays
        · next participant present =>
            split at relays
            · cases relays
            · next named => exact hasHandle_of_validated found present named

theorem applyAnonHelloState_joined {participant joined : ParticipantState} {hello : AnonHelloFrame}
    {nowMs : Nat} (applied : applyAnonHelloState participant hello nowMs = .ok joined) :
    joined.helloSeen = true ∧ joined.anonymousMode = true ∧
      joined.participantHandle = some hello.participantHandle ∧ joined.x25519Epoch ≠ 0 := by
  unfold applyAnonHelloState at applied
  dsimp only at applied
  split at applied
  · cases applied
  · cases applied
    refine ⟨rfl, rfl, rfl, ?_⟩
    dsimp only
    split
    · exact Nat.one_ne_zero
    · next positive => exact positive

/-- An accepted anonymous hello leaves its sender known by the handle that the update names. -/
theorem hasHandle_of_anonHello {hello : AnonHelloFrame} {nowMs rosterAtMs : Nat}
    {roster : AnonRosterFrame} {update : GroupKeyUpdateFrame} {rotate : AnonGroupKeyRotateFrame}
    (found : state.room = some room)
    (accepted : (anonHelloSection hub room connId hello nowMs rosterAtMs).2 =
      .accepted roster update rotate) :
    ((Operation.anonHello hello nowMs rosterAtMs).apply hub connId state).hasHandle connId
      update.participantHandle = true ∧ update.epoch ≠ 0 := by
  have left : ((Operation.anonHello hello nowMs rosterAtMs).apply hub connId state).room =
      some (anonHelloSection hub room connId hello nowMs rosterAtMs).1 :=
    Option.map_eq_some_iff.mpr ⟨room, found, rfl⟩
  have step := anonHelloSection_cases hub room connId hello nowMs rosterAtMs
  revert accepted left step
  generalize anonHelloSection hub room connId hello nowMs rosterAtMs = result
  intro accepted left step
  cases step with
  | refused _ _ refused => exact absurd accepted (refused _ _ _)
  | @announced participant joined entered present applied entries _ =>
      cases accepted
      obtain ⟨seen, anonymous, named, positive⟩ := applyAnonHelloState_joined applied
      refine ⟨HubRoom.hasHandle_of_get left ?_ seen anonymous named, positive⟩
      change entered.participants.get? connId = some joined
      rw [entries]
      simp [HashMap.get?_modify, present]

end Checks

/-! ### The handlers -/

section Frames

variable {hub : HubState} {connId : ConnId} {world : World} {sender : Sender}

/-- A relay of a frame whose sender the check has seen. -/
theorem speaks_checkedRelay {check : RoomState → CheckOutcome} {frame : KaigiFrame}
    (named : senderOf frame = some sender)
    (sees : ∀ (state : HubRoom) room, state.room = some room → check room = .passed →
      state.knows connId sender = true) :
    Speaks hub connId (checked hub connId check (broadcastFrame hub frame)) world :=
  speaks_parts.checked fun _ state room found passed =>
    speaks_broadcast named (.of_read (sees state room found passed))

theorem speaks_handleChat (chat : ChatFrame) :
    Speaks hub connId (handleChat hub connId chat) world := by
  refine speaks_parts.unlessAnonymous fun _ => speaks_parts.section rfl fun _ check => ?_
  split
  · exact speaks_parts.error _
  · next joined =>
      have joined : check.hasJoined connId = true := by
        unfold HubRoom.hasJoined
        simpa using joined
      refine speaks_parts.behindE2eeGate fun _ gate => meets_nowMs fun atMs =>
        speaks_parts.section rfl fun _ look => ?_
      have vouched : ∀ past : List Event, Vouched hub connId
          (⟨connId, .connection, .read, look⟩ :: ⟨connId, .connection, .read, gate⟩ ::
            ⟨connId, .connection, .read, check⟩ :: past)
          (.participant (look.nameOf connId)) := by
        intro past
        have split : (⟨connId, .connection, .read, look⟩ :: ⟨connId, .connection, .read, gate⟩ ::
            ⟨connId, .connection, .read, check⟩ :: past : List Event) =
          [] ++ ⟨connId, .connection, .read, look⟩ :: ([⟨connId, .connection, .read, gate⟩] ++
            ⟨connId, .connection, .read, check⟩ :: past) := rfl
        refine .named split joined fun event member => ?_
        simp only [List.nil_append, List.cons_append, List.mem_cons, List.not_mem_nil,
          or_false] at member
        rcases member with rfl | rfl | rfl <;> rfl
      refine speaks_broadcast ?_ (vouched _)
      unfold HubRoom.nameOf
      cases look.room.bind fun room => room.participants.get? connId <;> rfl

theorem speaks_handleMediaTrackState (track : MediaTrackStateFrame) :
    Speaks hub connId (handleMediaTrackState hub connId track) world := by
  refine speaks_parts.unlessAnonymous fun _ =>
    speaks_parts.behindE2eeGate fun _ _ => meets_nowMs fun atMs =>
    speaks_parts.section rfl fun _ state => ?_
  split
  · exact speaks_parts.done ()
  · exact speaks_parts.error _
  · next updated =>
      cases found : state.room with
      | none =>
          rw [found] at updated
          cases updated
      | some room =>
          rw [found, Option.map_some, Option.getD_some] at updated
          obtain ⟨sender, present, joined, same⟩ :=
            mediaTrackStateSection_updated (by rw [updated]; rfl)
          have rules := handlerRules_sender hub connId (.participant track.participantId)
          refine speaks_after (.of_latest ⟨rfl, .inl ?_⟩) <|
            rules.bind (rules.broadcast fun _ named => (Option.some.inj named).symm) fun _ =>
              rules.announce rfl
          exact HubRoom.hasSender_of_get found present joined same

theorem speaks_handleE2eeKeyEpoch (keyEpoch : E2EEKeyEpochFrame) :
    Speaks hub connId (handleE2eeKeyEpoch hub connId keyEpoch) world := by
  refine speaks_parts.unlessAnonymous fun _ => speaks_parts.section rfl fun _ state =>
    speaks_parts.afterCheck fun passed => speaks_broadcast rfl (.of_latest ⟨rfl, .inl ?_⟩)
  cases found : state.room with
  | none =>
      rw [found] at passed
      cases passed
  | some room =>
      rw [found, Option.map_some, Option.getD_some] at passed
      unfold e2eeKeyEpochSection at passed
      dsimp only at passed
      split at passed
      · cases passed
      · cases passed
      · next valid => exact hasSender_of_checkSender found (checkSenderAfter_passed valid).2

theorem speaks_handleKeyRotationAck (ack : KeyRotationAckFrame) :
    Speaks hub connId (handleKeyRotationAck hub connId ack) world := by
  refine speaks_parts.unlessAnonymous fun _ => speaks_parts.section rfl fun _ state =>
    speaks_parts.afterCheck fun passed => speaks_broadcast rfl (.of_latest ⟨rfl, .inl ?_⟩)
  cases found : state.room with
  | none =>
      rw [found] at passed
      cases passed
  | some room =>
      rw [found, Option.map_some, Option.getD_some] at passed
      unfold keyRotationAckSection at passed
      dsimp only at passed
      split at passed
      · cases passed
      · cases passed
      · next valid => exact hasSender_of_checkSender found valid

theorem speaks_afterRelay {outcome : RelayOutcome} {frame : KaigiFrame}
    (named : outcome = .relay → ∃ sender, senderOf frame = some sender ∧
      Vouched hub connId world.own sender) :
    Speaks hub connId (afterRelay hub connId outcome frame) world := by
  cases outcome with
  | nothing => exact speaks_parts.done ()
  | refused message => exact speaks_parts.error message
  | relay =>
      obtain ⟨sender, names, vouched⟩ := named rfl
      exact speaks_broadcast names vouched

theorem speaks_handleGroupKeyUpdate (update : GroupKeyUpdateFrame) :
    Speaks hub connId (handleGroupKeyUpdate hub connId update) world := by
  refine speaks_parts.section rfl fun _ state => speaks_afterRelay fun relays => ?_
  cases found : state.room with
  | none =>
      rw [found] at relays
      cases relays
  | some room =>
      rw [found, Option.map_some, Option.getD_some] at relays
      obtain ⟨known, positive⟩ := hasHandle_of_groupKeyUpdate found relays
      exact ⟨.handle update.participantHandle, by simp [senderOf, positive],
        .of_latest ⟨rfl, .inl known⟩⟩

theorem speaks_handleEncryptedControl (enc : EncryptedControlFrame) :
    Speaks hub connId (handleEncryptedControl hub connId enc) world := by
  refine speaks_parts.section rfl fun _ state =>
    speaks_afterRelay fun relays => ⟨_, rfl, .of_read ?_⟩
  cases found : state.room with
  | none =>
      rw [found] at relays
      cases relays
  | some room =>
      rw [found, Option.map_some, Option.getD_some] at relays
      exact hasHandle_of_encryptedControl found relays

theorem speaks_handleAnonEncryptedPayload (enc : AnonEncryptedPayloadFrame) :
    Speaks hub connId (handleAnonEncryptedPayload hub connId enc) world := by
  refine speaks_parts.section rfl fun _ state =>
    speaks_afterRelay fun relays => ⟨_, rfl, .of_read ?_⟩
  cases found : state.room with
  | none =>
      rw [found] at relays
      cases relays
  | some room =>
      rw [found, Option.map_some, Option.getD_some] at relays
      exact hasHandle_of_anonEncryptedPayload found relays

theorem speaks_handleAnonHello (hello : AnonHelloFrame) :
    Speaks hub connId (handleAnonHello hub connId hello) world := by
  unfold handleAnonHello
  split
  · exact speaks_parts.error _
  · split
    · exact speaks_parts.error _
    · refine meets_nowMs fun now => meets_nowMs fun rosterAtMs =>
        speaks_parts.section rfl fun _ state => ?_
      split
      · exact speaks_parts.done ()
      · exact speaks_parts.error _
      · next roster update rotate accepted =>
          cases found : state.room with
          | none =>
              rw [found] at accepted
              cases accepted
          | some room =>
              rw [found, Option.map_some, Option.getD_some] at accepted
              obtain ⟨known, positive⟩ := hasHandle_of_anonHello found accepted
              have rules := handlerRules_sender hub connId (.handle update.participantHandle)
              have shows : Event.showsSender hub
                  ⟨connId, .connection, .anonHello hello now rosterAtMs, state⟩ connId
                  (.handle update.participantHandle) := ⟨rfl, .inr known⟩
              refine speaks_after (.of_latest shows) <|
                rules.announceAnonHello (fun named same => ?_) roster rotate
              simpa [senderOf, positive] using same.symm

theorem roleChangeSection_accepted {result : RoomState × Except String RoleMutationOutcome}
    {deltaAtMs : Nat} {changes : RoleMutationOutcome × Option ParticipantPresenceDeltaFrame}
    (accepted : (roleChangeSection result deltaAtMs).2 = .ok changes) :
    ∃ outcome, result.2 = .ok outcome := by
  obtain ⟨room, message | outcome⟩ := result
  · cases accepted
  · exact ⟨outcome, rfl⟩

theorem hasSender_of_applyRoleGrant {state : HubRoom} {room : RoomState} {grant : RoleGrantFrame}
    {outcome : RoleMutationOutcome} (found : state.room = some room)
    (accepted : (applyRoleGrant hub room connId grant).2 = .ok outcome) :
    state.hasSender connId grant.grantedBy = true := by
  unfold applyRoleGrant at accepted
  split at accepted
  · cases accepted
  · next authorized => exact hasSender_of_authorized found authorized

theorem hasSender_of_applyRoleRevoke {state : HubRoom} {room : RoomState}
    {revoke : RoleRevokeFrame} {outcome : RoleMutationOutcome} (found : state.room = some room)
    (accepted : (applyRoleRevoke hub room connId revoke).2 = .ok outcome) :
    state.hasSender connId revoke.revokedBy = true := by
  unfold applyRoleRevoke at accepted
  split at accepted
  · cases accepted
  · next authorized => exact hasSender_of_authorized found authorized

theorem speaks_afterRoleChange {frame : KaigiFrame}
    {outcome : Option (Except String (RoleMutationOutcome × Option ParticipantPresenceDeltaFrame))}
    (named : senderOf frame = some sender)
    (vouched : ∀ changes, outcome = some (.ok changes) → Vouched hub connId world.own sender) :
    Speaks hub connId (afterRoleChange hub connId frame outcome) world := by
  rcases outcome with _ | (message | changes)
  · exact speaks_parts.done ()
  · exact speaks_parts.error message
  · exact speaks_after (vouched changes rfl) <|
      (handlerRules_sender hub connId sender).afterRoleChange _ fun _ _ _ same =>
        Option.some.inj (same.symm.trans named)

theorem speaks_handleRoleGrant (grant : RoleGrantFrame) :
    Speaks hub connId (handleRoleGrant hub connId grant) world := by
  refine speaks_parts.unlessAnonymous fun _ => meets_nowMs fun deltaAtMs =>
    speaks_parts.section rfl fun _ state => speaks_afterRoleChange rfl fun changes accepted =>
      .of_latest ⟨rfl, .inl ?_⟩
  obtain ⟨room, found, accepted⟩ := Option.map_eq_some_iff.mp accepted
  obtain ⟨outcome, applied⟩ := roleChangeSection_accepted accepted
  exact hasSender_of_applyRoleGrant found applied

theorem speaks_handleRoleRevoke (revoke : RoleRevokeFrame) :
    Speaks hub connId (handleRoleRevoke hub connId revoke) world := by
  refine speaks_parts.unlessAnonymous fun _ => meets_nowMs fun deltaAtMs =>
    speaks_parts.section rfl fun _ state => speaks_afterRoleChange rfl fun changes accepted =>
      .of_latest ⟨rfl, .inl ?_⟩
  obtain ⟨room, found, accepted⟩ := Option.map_eq_some_iff.mp accepted
  obtain ⟨outcome, applied⟩ := roleChangeSection_accepted accepted
  exact hasSender_of_applyRoleRevoke found applied

/-- Between the check of a frame and its broadcast there may be another critical section. -/
theorem speaks_checkedSection {Value : Type} {check : RoomState → CheckOutcome} {op : Operation}
    {view : Option RoomState → Value} {frame : Value → KaigiFrame} (part : op.isPart = true)
    (named : ∀ room, senderOf (frame (view room)) = some sender)
    (sees : ∀ (state : HubRoom) room, state.room = some room → check room = .passed →
      state.knows connId sender = true) :
    Speaks hub connId (checked hub connId check do
      let value ← critical op view
      broadcastFrame hub (frame value)) world := by
  refine speaks_parts.checked fun _ state room found passed =>
    speaks_parts.section part fun _ later => ?_
  have vouched : Vouched hub connId (⟨connId, .connection, .read, state⟩ :: world.own) sender :=
    Vouched.of_read (sees state room found passed)
  exact speaks_broadcast (named later.room) (vouched.cons (Operation.isPart_stays part).2)

theorem speaks_handleFrame (frame : KaigiFrame) :
    Speaks hub connId (handleFrame hub connId frame) world := by
  cases announces : announcesOnly frame with
  | true => exact handlerRules_nameless.handleAnnouncing announces world trivial
  | false =>
      cases frame with
      | escrowProof proof =>
          refine handlerRules_nameless.handleEscrowProof proof (fun _ _ named => ?_) world trivial
          cases named
      | payment payment =>
          refine handlerRules_nameless.handlePayment payment (fun _ _ named => ?_) world trivial
          cases named
      | anonHello hello => exact speaks_handleAnonHello hello
      | groupKeyUpdate update => exact speaks_handleGroupKeyUpdate update
      | encryptedControl enc => exact speaks_handleEncryptedControl enc
      | anonEncryptedPayload enc => exact speaks_handleAnonEncryptedPayload enc
      | chat chat => exact speaks_handleChat chat
      | mediaCapability =>
          exact speaks_parts.unlessAnonymous fun _ =>
            speaks_checkedRelay rfl fun _ _ => hasSender_of_checkSender
      | recordingNotice =>
          exact speaks_parts.unlessAnonymous fun _ =>
            speaks_checkedRelay rfl fun _ _ found passed =>
            hasSender_of_checkSender found (checkSenderAfter_passed passed).2
      | mediaTrackState track => exact speaks_handleMediaTrackState track
      | videoSegment | audioPacket =>
          exact speaks_parts.unlessAnonymous fun _ => speaks_parts.behindE2eeGate fun _ _ =>
            speaks_checkedRelay rfl fun _ _ => hasSender_of_checkSender
      | roleGrant grant => exact speaks_handleRoleGrant grant
      | roleRevoke revoke => exact speaks_handleRoleRevoke revoke
      | deviceCapability =>
          exact speaks_parts.unlessAnonymous fun _ => speaks_checkedSection rfl (fun _ => rfl)
            fun _ _ found passed =>
              hasSender_of_checkSender found (checkSenderAfter_passed passed).2
      | mediaProfileNegotiation profile =>
          have named : ∀ room : Option RoomState, senderOf (.mediaProfileNegotiation
              ((room.map fun room => resolveMediaProfileNegotiation room connId profile).getD
                profile)) = some (.participant profile.participantId) := by
            intro room
            cases room with
            | none => rfl
            | some room =>
                rw [Option.map_some, Option.getD_some]
                unfold resolveMediaProfileNegotiation
                split
                · rfl
                · dsimp only
                  split <;> rfl
          exact speaks_parts.unlessAnonymous fun _ => speaks_checkedSection rfl named
            fun _ _ found passed =>
              hasSender_of_checkSender found (checkSenderAfter_passed passed).2
      | e2eeKeyEpoch keyEpoch => exact speaks_handleE2eeKeyEpoch keyEpoch
      | keyRotationAck ack => exact speaks_handleKeyRotationAck ack
      | moderation moderation =>
          refine handlerRules_nameless.processModerationFrame moderation ?_ world trivial
          intro sender named
          cases named
      | moderationSigned signed =>
          refine speaks_parts.unlessAnonymous fun _ =>
            speaks_parts.checked fun _ state room found passed => ?_
          have known : state.knows connId (.participant signed.issuedBy) = true :=
            hasSender_of_moderationSigned found passed
          exact speaks_after (.of_read known) <|
            (handlerRules_sender hub connId _).processModerationFrame _ fun _ same =>
              (Option.some.inj same).symm
      | _ => cases announces

theorem disconnectSection_leftHandle (room : RoomState) (deltaAtMs leftAtMs : Nat) :
    (disconnectSection room connId deltaAtMs leftAtMs).2.leftParticipantHandle =
      (room.participants.get? connId).bind (·.participantHandle) := by
  unfold disconnectSection
  dsimp only
  split <;> rfl

/-- After its disconnect a task names nobody but the one who has left. -/
theorem speaks_handleDisconnect : Speaks hub connId (handleDisconnect hub connId) world := by
  refine meets_nowMs fun deltaAtMs => meets_nowMs fun leftAtMs => meets_critical fun state =>
    ⟨fun _ _ carried _ => (by cases carried), ?_⟩
  change Process.Meets _ _ (afterLeave hub (state.room.map fun room =>
    (disconnectSection room connId deltaAtMs leftAtMs).2)) _
  let leave : Event := ⟨connId, .connection, .disconnect deltaAtMs leftAtMs, state⟩
  have vouches : ∀ past sender, (∃ participantHandle, sender = .leaver participantHandle ∧
      leave.letsGo participantHandle) → leave ∈ past → Vouched hub connId past sender := by
    rintro past _ ⟨participantHandle, rfl, lets⟩ member
    exact .left member lets
  have rules := handlerRules_of_vouched (leave ∈ ·) _
    (fun _ _ _ member => List.mem_cons_of_mem _ member) vouches
  refine (rules.afterLeave _ ?_ _ List.mem_cons_self).mono fun _ _ _ => trivial
  intro outcome participantHandle sentAtMs left named sender names
  cases names
  obtain ⟨room, found, rfl⟩ := Option.map_eq_some_iff.mp left
  obtain ⟨participant, present, has⟩ : ∃ participant,
      room.participants.get? connId = some participant ∧
        participant.participantHandle = some participantHandle := by
    rw [disconnectSection_leftHandle] at named
    exact Option.bind_eq_some_iff.mp named
  exact ⟨participantHandle, rfl, rfl, room, participant, found, present, has⟩

end Frames

/-- Every connection task speaks for nobody else. -/
def senderProtocol (hub : HubState) (connId : ConnId) : Protocol hub connId where
  admits := SpeaksTruly hub connId
  resting _ := True
  connects _ _ := trivial
  pongs _ _ _ _ := ⟨fun _ _ carried => (by cases carried), trivial⟩
  serves frame _ _ := speaks_handleFrame frame
  leaves _ _ := speaks_handleDisconnect

/-! ### Every run -/

theorem own_eq_append {connId : ConnId} {history newer older : List Event} {check : Event}
    (split : own connId .connection history = newer ++ check :: older) :
    ∃ since before, history = since ++ check :: before ∧ own connId .connection since = newer ∧
      own connId .connection before = older ∧ check.connId = connId := by
  obtain ⟨first, second, rfl, front, tail⟩ := List.filter_eq_append_iff.mp split
  obtain ⟨between, before, rfl, foreign, owns, same⟩ := List.filter_eq_cons_iff.mp tail
  simp only [Bool.and_eq_true, beq_iff_eq] at owns
  refine ⟨first ++ between, before, by simp, ?_, same, owns.1⟩
  rw [own_append]
  have nothing : own connId .connection between = [] :=
    List.filter_eq_nil_iff.mpr foreign
  rw [nothing, List.append_nil]
  exact front

section Runs

variable {hub : HubState} {history newer older : List Event} {system : System} {connId : ConnId}

theorem HubRoom.hasSender_iff {state : HubRoom} {participantId : String} :
    state.hasSender connId participantId = true ↔ ∃ room sender, state.room = some room ∧
      room.participants.get? connId = some sender ∧ sender.helloSeen = true ∧
        sender.participantId = participantId := by
  simp [HubRoom.hasSender, Option.any_eq_true]

theorem HubRoom.hasHandle_iff {state : HubRoom} {participantHandle : String} :
    state.hasHandle connId participantHandle = true ↔ ∃ room sender, state.room = some room ∧
      room.participants.get? connId = some sender ∧ sender.helloSeen = true ∧
        sender.anonymousMode = true ∧ sender.participantHandle = some participantHandle := by
  simp [HubRoom.hasHandle, Option.any_eq_true, and_assoc]

/-- Whoever is anonymous is so in an anonymous room. -/
theorem Trace.anonymousRoom (trace : Trace hub history) {room : RoomState}
    (found : (sharedAfter hub history).room = some room) {participant : ParticipantState}
    (present : room.participants.get? connId = some participant)
    (anonymous : participant.anonymousMode = true) : room.anonymousMode = true := by
  by_contra mode
  have mode : (groupOf room).anonymous = false := Bool.eq_false_iff.mpr mode
  have transparent := (trace.separated room found).transparent mode connId _
    (members_groupOf present)
  rw [show participant.anonymousMode = false from transparent] at anonymous
  cases anonymous

/-- A name is kept until the task of the connection lets it go. -/
theorem Trace.knows_stays (trace : Trace hub (newer ++ older)) {sender : Sender}
    (known : (sharedAfter hub older).knows connId sender = true)
    (stays : ∀ event ∈ newer, event.op.isDisconnect = true → event.connId ≠ connId) :
    (sharedAfter hub (newer ++ older)).knows connId sender = true := by
  cases sender with
  | leaver => cases known
  | participant participantId =>
      obtain ⟨first, old, was, present, joined, rfl⟩ := HubRoom.hasSender_iff.mp known
      obtain ⟨second, found, still, _⟩ := Trace.while_joined (fun _ => True)
        (fun _ _ _ _ _ _ _ _ => trivial) trace was (by simp [RoomState.helloSeen, present, joined])
        trivial stays
      obtain ⟨new, remains, stillJoined⟩ := (Option.any_eq_true ..).mp still
      have same := trace.sameIdentity was found present joined remains
      exact HubRoom.hasSender_iff.mpr ⟨second, new, found, remains, stillJoined, same.participantId⟩
  | handle participantHandle =>
      obtain ⟨first, old, was, present, joined, anonymous, named⟩ := HubRoom.hasHandle_iff.mp known
      have mode := (trace.suffix newer).anonymousRoom was present anonymous
      obtain ⟨second, found, still, modeToo⟩ := Trace.while_joined (·.anonymousMode = true)
        (fun _ _ _ _ lawful was left holds => lawful.staysAnonymous was left holds) trace was
        (by simp [RoomState.helloSeen, present, joined]) mode stays
      obtain ⟨new, remains, stillJoined⟩ := (Option.any_eq_true ..).mp still
      have same := trace.sameIdentity was found present joined remains
      have hidden := ((trace.separated second found).anonymous modeToo connId _
        (members_groupOf remains) stillJoined).1
      exact HubRoom.hasHandle_iff.mpr
        ⟨second, new, found, remains, stillJoined, hidden, (same.handle mode).trans named⟩

/-- Whoever has joined is known by the name that a handler finds. -/
theorem HubRoom.knows_nameOf {state : HubRoom} (joined : state.hasJoined connId = true) :
    state.hasSender connId (state.nameOf connId) = true := by
  obtain ⟨room, found, hello⟩ := HubRoom.hasJoined_iff.mp joined
  obtain ⟨sender, present, seen⟩ := (Option.any_eq_true ..).mp hello
  refine HubRoom.hasSender_iff.mpr ⟨room, sender, found, present, seen, ?_⟩
  simp [HubRoom.nameOf, found, present]

/-- The own events since some moment tell whether the connection has left since. -/
theorem stays_of_own {since : List Event}
    (tasks : ∀ event ∈ since, event.op.isTasks = true → event.task = .connection)
    (stays : ∀ event ∈ own connId .connection since, event.op.isDisconnect = false) :
    ∀ event ∈ since, event.op.isDisconnect = true → event.connId ≠ connId := by
  intro event member leaves same
  have task : event.task = .connection := by
    refine tasks event member ?_
    cases op : event.op <;> rw [op] at leaves <;> first | rfl | cases leaves
  rw [stays event (mem_own.mpr ⟨member, same, task⟩)] at leaves
  cases leaves

/-- What a task has seen is still so, if it has not left. -/
theorem Trace.knows_of_vouched (trace : Trace hub history)
    (tasks : ∀ event ∈ history, event.op.isTasks = true → event.task = .connection)
    {sender : Sender} (vouched : Vouched hub connId (own connId .connection history) sender)
    (staying : ∀ participantHandle, sender ≠ .leaver participantHandle) :
    (sharedAfter hub history).knows connId sender = true := by
  have keeps : ∀ since check before, history = since ++ check :: before →
      (∀ event ∈ own connId .connection since, event.op.isDisconnect = false) →
      check.op.isDisconnect = false → check.before.knows connId sender = true →
        (sharedAfter hub history).knows connId sender = true := by
    rintro since check before rfl stays remains known
    obtain ⟨_, found, _⟩ := trace.lawful
    have regrouped : since ++ check :: before = (since ++ [check]) ++ before := by simp
    rw [regrouped] at trace tasks ⊢
    refine trace.knows_stays (found ▸ known) fun event member leaves => ?_
    rcases List.mem_append.mp member with recent | last
    · exact stays_of_own (fun event member => tasks event (by simp [member])) stays event recent
        leaves
    · rw [List.mem_singleton.mp last, remains] at leaves
      cases leaves
  cases vouched with
  | @shown _ _ _ check split shows stays =>
      obtain ⟨since, before, rfl, rfl, rfl, _⟩ := own_eq_append split
      rcases shows.2 with known | known
      · exact keeps since check before rfl stays shows.1 known
      · have left : (sharedAfter hub (check :: before)).knows connId sender = true := known
        exact trace.knows_stays left
          (stays_of_own (fun event member => tasks event (by simp [member])) stays)
  | @named _ _ _ check look split joined stays =>
      obtain ⟨since, later, rfl, rfl, tail, _⟩ := own_eq_append split
      obtain ⟨between, before, rfl, rfl, rfl, _⟩ := own_eq_append tail
      obtain ⟨past, found, _⟩ := trace.lawful
      obtain ⟨_, checked, _⟩ := past.lawful
      have regrouped : between ++ check :: before = (between ++ [check]) ++ before := by simp
      have still : look.before.hasJoined connId = true := by
        rw [found, regrouped]
        rw [regrouped] at past
        refine past.joined_until_left (checked ▸ joined) fun event member leaves => ?_
        rcases List.mem_append.mp member with recent | last
        · exact stays_of_own (fun event member => tasks event (by simp [member]))
            (fun event member => stays event (by simp [member])) event recent leaves
        · rw [List.mem_singleton.mp last, stays check (by simp)] at leaves
          cases leaves
      exact keeps since look _ rfl (fun event member => stays event (by simp [member]))
        (stays look (by simp)) (HubRoom.knows_nameOf still)
  | left => exact absurd rfl (staying _)

/-- What it means that the sender of a frame is who the frame says. -/
def Event.speaksFor (event : Event) (older : List Event) : Sender → Prop
  | .participant participantId => event.before.hasSender event.connId participantId = true ∧
      ∀ room, event.before.room = some room → room.anonymousMode = false →
        ∀ other, event.before.hasSender other participantId = true → other = event.connId
  | .handle participantHandle => event.before.hasHandle event.connId participantHandle = true ∧
      ∀ other, event.before.hasHandle other participantHandle = true → other = event.connId
  | .leaver participantHandle => ∃ leave ∈ older, leave.connId = event.connId ∧
      leave.letsGo participantHandle

/-- In a transparent room an id has one holder. -/
theorem Trace.sender_unique (trace : Trace hub history) {room : RoomState} {participantId : String}
    {other : ConnId} (found : (sharedAfter hub history).room = some room)
    (transparent : room.anonymousMode = false)
    (sends : (sharedAfter hub history).hasSender connId participantId = true)
    (sendsToo : (sharedAfter hub history).hasSender other participantId = true) :
    other = connId := by
  obtain ⟨_, sender, here, present, joined, named⟩ := HubRoom.hasSender_iff.mp sends
  obtain ⟨_, current, hereToo, presentToo, joinedToo, namedToo⟩ := HubRoom.hasSender_iff.mp sendsToo
  rw [found] at here hereToo
  cases here
  cases hereToo
  exact (trace.orderly found transparent).unique other connId participantId
    ⟨_, members_groupOf presentToo, .inl joinedToo, namedToo⟩
    ⟨_, members_groupOf present, .inl joined, named⟩

/-- A handle has one holder. -/
theorem Trace.handle_unique (trace : Trace hub history) {participantHandle : String}
    {other : ConnId} (sends : (sharedAfter hub history).hasHandle connId participantHandle = true)
    (sendsToo : (sharedAfter hub history).hasHandle other participantHandle = true) :
    other = connId := by
  obtain ⟨room, sender, here, present, _, anonymous, named⟩ := HubRoom.hasHandle_iff.mp sends
  obtain ⟨_, current, hereToo, presentToo, _, anonymousToo, namedToo⟩ :=
    HubRoom.hasHandle_iff.mp sendsToo
  rw [here] at hereToo
  cases hereToo
  have unique := trace.uniqueHandles
  rw [roomAfter_of_some here] at unique
  exact unique other connId current sender participantHandle presentToo present anonymousToo
    anonymous namedToo named

/-- Nobody speaks for anybody else: whenever a frame that names its sender is broadcast or put
into a channel, the connection whose task does so has joined under that name at this very moment,
and it alone. A notice of a leave comes from the task of the connection that has left. -/
theorem senders_authentic (run : Run hub history system) :
    ∀ newer event older frame sender, history = newer ++ event :: older →
      event.op.frame? = some frame → senderOf frame = some sender →
        event.speaksFor older sender := by
  rintro newer event older frame sender rfl carried named
  have task : event.task = .connection := by
    refine run.frame_task (by simp) carried ?_
    rintro notice rfl
    cases named
  obtain ⟨past, found, _⟩ := run.trace.1.lawful
  have tasks : ∀ other ∈ older, other.op.isTasks = true → other.task = .connection := by
    intro other member
    obtain ⟨_, _, _, lawful⟩ := run.lawful
      (show other ∈ newer ++ event :: older by simp [member])
    exact lawful.ownTask
  have vouched : Vouched hub event.connId (own event.connId .connection older) sender := by
    rcases ((senderProtocol hub event.connId).kept run).admitted newer event older rfl rfl task with
      ⟨_, connects⟩ | admitted
    · rw [connects] at carried
      cases carried
    · exact admitted frame sender carried named
  cases sender with
  | participant participantId =>
      have known : event.before.hasSender event.connId participantId = true := by
        rw [found]
        exact past.knows_of_vouched tasks vouched fun _ same => by cases same
      refine ⟨known, fun room here transparent other sends => ?_⟩
      rw [found] at here known sends
      exact past.sender_unique here transparent known sends
  | handle participantHandle =>
      have known : event.before.hasHandle event.connId participantHandle = true := by
        rw [found]
        exact past.knows_of_vouched tasks vouched fun _ same => by cases same
      refine ⟨known, fun other sends => ?_⟩
      rw [found] at known sends
      exact past.handle_unique known sends
  | leaver participantHandle =>
      cases vouched with
      | shown split shows =>
          rcases shows.2 with known | known <;> cases known
      | @left _ leave member lets =>
          obtain ⟨happened, same, _⟩ := mem_own.mp member
          exact ⟨leave, happened, same, lets⟩

end Runs

/-- Alice joins, publishes a key and says something that her neighbour is to read. -/
def senderScript : List Move :=
  [.connect 1 0, .connect 2 0] ++ sendsFrame 1 0 1 28 ++ sendsFrame 1 1 2 8 ++ sendsFrame 1 2 3 11

/-- The operation sends a chat message of alice. -/
def Operation.sendsAsAlice : Operation → Bool
  | .trySend _ (.binary (.chat chat)) => chat.fromParticipantId == "alice@sora"
  | _ => false

theorem senders_authentic_script :
    ∃ history system, Run gateHub history system ∧ ∃ event ∈ history, ∃ target chat,
      event.op = .trySend target (.binary (.chat chat)) ∧ chat.fromParticipantId = "alice@sora" ∧
        event.before.hasSender event.connId "alice@sora" = true := by
  obtain ⟨history, system, run, event, happened, sends⟩ := Run.of_played_event gateHub senderScript
    Operation.sendsAsAlice (by decide +kernel)
  obtain ⟨newer, older, split⟩ := List.append_of_mem happened
  unfold Operation.sendsAsAlice at sends
  split at sends
  · next target chat op =>
      have named : chat.fromParticipantId = "alice@sora" := beq_iff_eq.mp sends
      have speaks := senders_authentic run newer event older (.chat chat)
        (.participant chat.fromParticipantId) split (by rw [op]; rfl) rfl
      rw [named] at speaks
      exact ⟨history, system, run, event, happened, target, chat, op, named, speaks.1⟩
  · cases sends

end Kaigi.Hub
