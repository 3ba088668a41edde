import Kaigi.Hub.ActionClocks

/-!
# Key epochs

Every connection has the epoch of the key it published last and the epoch it has
acknowledged last. Both only grow while the connection stays, and go with it.
-/

set_option autoImplicit false

namespace Kaigi.Hub

open Collections Wire Interleaving Authority

def ackedEpoch (room : RoomState) (connId : ConnId) : Nat :=
  (room.keyRotationAckEpochs.get? connId).getD 0

/-- What a step can do to the epochs of one connection. -/
inductive KeyStep (room after : RoomState) (actor : ConnId) (op : Operation)
    (accepted : Option SignedAction) (connId : ConnId) : Prop where
  | kept : after.e2eeEpochs.get? connId = room.e2eeEpochs.get? connId →
      after.keyRotationAckEpochs.get? connId = room.keyRotationAckEpochs.get? connId →
      (op.isDisconnect = true → actor ≠ connId) →
      KeyStep room after actor op accepted connId
  | entered : room.e2eeEpochs.get? connId = none →
      after.e2eeEpochs.get? connId = some 0 →
      after.keyRotationAckEpochs.get? connId = room.keyRotationAckEpochs.get? connId →
      after.helloSeen connId = true → op.isDisconnect = false →
      KeyStep room after actor op accepted connId
  | published {frame : E2EEKeyEpochFrame} : op = .e2eeKeyEpoch frame → accepted ≠ none →
      actor = connId → room.helloSeen connId = true →
      publishedEpoch room connId < frame.epoch →
      after.e2eeEpochs.get? connId = some frame.epoch →
      after.keyRotationAckEpochs.get? connId = room.keyRotationAckEpochs.get? connId →
      KeyStep room after actor op accepted connId
  | acked {ack : KeyRotationAckFrame} : op = .keyRotationAck ack → accepted ≠ none →
      actor = connId → room.helloSeen connId = true →
      ack.ackEpoch ≤ publishedEpoch room connId → ackedEpoch room connId < ack.ackEpoch →
      after.e2eeEpochs.get? connId = room.e2eeEpochs.get? connId →
      after.keyRotationAckEpochs.get? connId = some ack.ackEpoch →
      KeyStep room after actor op accepted connId
  | gone : (∀ hello snapshotAtMs deltaAtMs, op ≠ .hello hello snapshotAtMs deltaAtMs) →
      after.e2eeEpochs.get? connId = none → after.keyRotationAckEpochs.get? connId = none →
      after.participants.get? connId = none →
      KeyStep room after actor op accepted connId

section Steps

variable {hub : HubState} {room after : RoomState} {actor connId : ConnId} {op : Operation}
  {accepted : Option SignedAction}

/-- A step that joins `entering` to the ledger. -/
theorem keyStep_join {entering : ConnId}
    (epochs : after.e2eeEpochs = room.e2eeEpochs.orInsert entering 0)
    (acks : after.keyRotationAckEpochs = room.keyRotationAckEpochs)
    (joined : after.helloSeen entering = true) (stays : op.isDisconnect = false) :
    KeyStep room after actor op accepted connId := by
  have acks := congrArg (HashMap.get? · connId) acks
  by_cases same : connId = entering
  · subst same
    cases found : room.e2eeEpochs.get? connId with
    | none => exact .entered found (by simp [epochs, found]) acks joined stays
    | some epoch =>
        exact .kept (by simp [epochs, found]) acks fun leaves => by simp [stays] at leaves
  · exact .kept (by simp [epochs, same]) acks fun leaves => by simp [stays] at leaves

/-- A step that drops `leaving` from the ledger. -/
theorem keyStep_drop {leaving : ConnId}
    (epochs : after.e2eeEpochs = room.e2eeEpochs.remove leaving)
    (acks : after.keyRotationAckEpochs = room.keyRotationAckEpochs.remove leaving)
    (absent : after.participants.get? leaving = none)
    (other : ∀ hello snapshotAtMs deltaAtMs, op ≠ .hello hello snapshotAtMs deltaAtMs)
    (own : op.isDisconnect = true → actor = leaving) :
    KeyStep room after actor op accepted connId := by
  by_cases same : connId = leaving
  · subst same
    exact .gone other (by simp [epochs]) (by simp [acks]) absent
  · refine .kept (by simp [epochs, same]) (by simp [acks, same]) fun leaves => ?_
    rw [own leaves]
    exact Ne.symm same

theorem LedgerStep.keyStep (step : LedgerStep hub room actor op accepted after)
    (connId : ConnId) : KeyStep room after actor op accepted connId := by
  have kept : ∀ {op : Operation} {accepted : Option SignedAction},
      after.e2eeEpochs = room.e2eeEpochs →
      after.keyRotationAckEpochs = room.keyRotationAckEpochs → op.isDisconnect = false →
        KeyStep room after actor op accepted connId := by
    intro op accepted epochs acks stays
    exact .kept (congrArg (HashMap.get? · connId) epochs) (congrArg (HashMap.get? · connId) acks)
      fun leaves => by simp [stays] at leaves
  cases step with
  | kept stays same =>
      exact kept (congrArg Ledger.keyEpochs same) (congrArg Ledger.ackEpochs same) stays
  | joined same joined =>
      exact keyStep_join (congrArg Ledger.keyEpochs same) (congrArg Ledger.ackEpochs same) joined
        rfl
  | left same absent =>
      exact keyStep_drop (congrArg Ledger.keyEpochs same) (congrArg Ledger.ackEpochs same) absent
        nofun fun _ => rfl
  | capable same =>
      exact kept (congrArg Ledger.keyEpochs same) (congrArg Ledger.ackEpochs same) rfl
  | roleGrant _ _ same | roleRevoke _ _ same =>
      exact kept (congrArg Ledger.keyEpochs same) (congrArg Ledger.ackEpochs same) rfl
  | policy _ _ _ same =>
      exact kept (congrArg Ledger.keyEpochs same) (congrArg Ledger.ackEpochs same) rfl
  | moderated _ _ _ _ same =>
      exact kept (congrArg Ledger.keyEpochs same) (congrArg Ledger.ackEpochs same) rfl
  | admitted _ _ _ same joined =>
      exact keyStep_join (congrArg Ledger.keyEpochs same) (congrArg Ledger.ackEpochs same) joined
        rfl
  | denied _ _ _ _ _ same absent =>
      exact keyStep_drop (congrArg Ledger.keyEpochs same) (congrArg Ledger.ackEpochs same) absent
        nofun nofun
  | @keyEpoch frame _ _ _ _ joined grows same =>
      have epochs : after.e2eeEpochs = room.e2eeEpochs.put actor frame.epoch :=
        congrArg Ledger.keyEpochs same
      have acks := congrArg (HashMap.get? · connId) (congrArg Ledger.ackEpochs same)
      by_cases own : actor = connId
      · subst own
        exact .published rfl nofun rfl joined grows (by simp [epochs]) acks
      · exact .kept (by simp [epochs, Ne.symm own]) acks nofun
  | @ackEpoch ack _ _ _ _ joined _ within grows same =>
      have epochs := congrArg (HashMap.get? · connId) (congrArg Ledger.keyEpochs same)
      have acks : after.keyRotationAckEpochs = room.keyRotationAckEpochs.put actor ack.ackEpoch :=
        congrArg Ledger.ackEpochs same
      by_cases own : actor = connId
      · subst own
        exact .acked rfl nofun rfl joined within grows epochs (by simp [acks])
      · exact .kept epochs (by simp [acks, Ne.symm own]) nofun

/-- The epochs of a connection that stays do not go back. -/
theorem KeyStep.grows (step : KeyStep room after actor op accepted connId)
    (stays : after.participants.get? connId ≠ none) :
    publishedEpoch room connId ≤ publishedEpoch after connId ∧
      ackedEpoch room connId ≤ ackedEpoch after connId := by
  unfold publishedEpoch ackedEpoch
  cases step with
  | kept epochs acks => rw [epochs, acks]; exact ⟨Nat.le_refl _, Nat.le_refl _⟩
  | entered absent epochs acks => rw [absent, acks]; exact ⟨Nat.zero_le _, Nat.le_refl _⟩
  | published _ _ _ _ grows epochs acks =>
      rw [epochs, acks]
      exact ⟨grows.le, Nat.le_refl _⟩
  | acked _ _ _ _ _ grows epochs acks =>
      rw [epochs, acks]
      exact ⟨Nat.le_refl _, grows.le⟩
  | gone _ _ _ absent => exact absurd absent stays

end Steps

/-- The tables name joined connections, and nobody acknowledges what it has not
published. -/
structure Registered (room : RoomState) : Prop where
  apart : ∀ connId member, (groupOf room).members connId = some member → member.joined = true →
    member.waiting = false
  published : ∀ connId, room.e2eeEpochs.get? connId ≠ none → room.helloSeen connId = true
  acked : ∀ connId ack, room.keyRotationAckEpochs.get? connId = some ack →
    room.e2eeEpochs.get? connId ≠ none ∧ ack ≤ publishedEpoch room connId

/-- Whoever has joined stays and has joined until its own disconnect. -/
theorem Lawful.joined_stays {hub : HubState} {earlier : List Event} {event : Event}
    {after : RoomState} (lawful : Lawful hub earlier event)
    (left : (event.after hub).room = some after)
    (apart : ∀ connId member, (groupOf (event.before.opened hub)).members connId = some member →
      member.joined = true → member.waiting = false)
    {connId : ConnId} (joined : (event.before.opened hub).helloSeen connId = true)
    (other : event.op.isDisconnect = true → event.connId ≠ connId) :
    after.helloSeen connId = true := by
  have step := lawful.step left
  have joined := joined_groupOf.mpr joined
  obtain ⟨member, found, hello⟩ := joined
  obtain ⟨current, present⟩ := Option.isSome_iff_exists.mp
    (step.remains found (apart connId member found hello) fun leaves =>
      other (Operation.leaves leaves).1 (Operation.leaves leaves).2)
  exact joined_groupOf.mp ⟨current, present, step.joined ⟨member, found, hello⟩ present⟩

theorem Lawful.registered {hub : HubState} {earlier : List Event} {event : Event}
    {after : RoomState} (lawful : Lawful hub earlier event)
    (left : (event.after hub).room = some after)
    (registered : Registered (event.before.opened hub)) : Registered after where
  apart _ _ found joined := (lawful.step left).apart registered.apart found joined
  published := by
    intro connId known
    have stays : (event.before.opened hub).helloSeen connId = true →
        (event.op.isDisconnect = true → event.connId ≠ connId) → after.helloSeen connId = true :=
      lawful.joined_stays left registered.apart
    cases (Event.ledgerStep left).keyStep connId with
    | kept epochs _ other => exact stays (registered.published connId (epochs ▸ known)) other
    | entered _ _ _ joined _ => exact joined
    | published op _ _ joined | acked op _ _ joined =>
        exact stays joined fun leaves => by simp [op, Operation.isDisconnect] at leaves
    | gone _ epochs => exact absurd epochs known
  acked := by
    intro connId ack known
    cases (Event.ledgerStep left).keyStep connId with
    | kept epochs acks =>
        rw [acks] at known
        unfold publishedEpoch
        rw [epochs]
        exact registered.acked connId ack known
    | entered absent _ acks =>
        rw [acks] at known
        exact absurd absent (registered.acked connId ack known).1
    | published _ _ _ _ grows epochs acks =>
        rw [acks] at known
        unfold publishedEpoch
        rw [epochs]
        exact ⟨nofun, (registered.acked connId ack known).2.trans grows.le⟩
    | acked _ _ _ _ within grows epochs acks =>
        rw [acks] at known
        cases known
        unfold publishedEpoch at within ⊢
        rw [epochs]
        refine ⟨fun absent => ?_, within⟩
        rw [absent] at within
        exact absurd (Nat.lt_of_lt_of_le grows within) (Nat.not_lt_zero _)
    | gone _ _ acks => rw [acks] at known; cases known

theorem registered_emptyRoom (hub : HubState) : Registered (emptyRoom hub) where
  apart := (orderly_emptyRoom hub).exclusive
  published _ known := absurd rfl known
  acked _ _ known := by cases known

theorem Trace.registered {hub : HubState} {history : List Event} (trace : Trace hub history) :
    Registered (roomAfter hub history) :=
  Trace.room (fun _ room => Registered room) (fun _ => registered_emptyRoom hub)
    (fun _ _ _ _ lawful _ registered left => lawful.registered left registered) trace

theorem RoomState.present_of_joined {room : RoomState} {connId : ConnId}
    (joined : room.helloSeen connId = true) : room.participants.get? connId ≠ none := by
  intro absent
  simp [RoomState.helloSeen, absent] at joined

/-- Both epochs of a connection only grow as long as it stays. -/
theorem Trace.epochs_grow {hub : HubState} {later earlier : List Event}
    (trace : Trace hub (later ++ earlier)) {first second : RoomState} {connId : ConnId}
    (was : (sharedAfter hub earlier).room = some first)
    (present : first.participants.get? connId ≠ none)
    (found : (sharedAfter hub (later ++ earlier)).room = some second)
    (stays : second.participants.get? connId ≠ none) :
    publishedEpoch first connId ≤ publishedEpoch second connId ∧
      ackedEpoch first connId ≤ ackedEpoch second connId := by
  obtain ⟨participant, known⟩ := Option.ne_none_iff_exists'.mp stays
  refine Trace.staying (fun _ room _ => publishedEpoch first connId ≤ publishedEpoch room connId ∧
    ackedEpoch first connId ≤ ackedEpoch room connId) ?_ ?_ trace was present found known
  · intro room participant same _
    rw [was] at same
    cases same
    exact ⟨Nat.le_refl _, Nat.le_refl _⟩
  · rintro rest event room after old new _ _ _ before _ left remains ⟨epochs, acks⟩
    have step := (Event.ledgerStep left).keyStep connId
    rw [HubRoom.opened_of_some before] at step
    obtain ⟨grows, growsToo⟩ := step.grows (by rw [remains]; nofun)
    exact ⟨epochs.trans grows, acks.trans growsToo⟩

/-- The epoch that an event gets accepted for its connection. -/
def Event.publishes (hub : HubState) (event : Event) : Option Nat :=
  match event.op with
  | .e2eeKeyEpoch frame => (event.accepted hub).map fun _ => frame.epoch
  | _ => none

def Event.acknowledges (hub : HubState) (event : Event) : Option Nat :=
  match event.op with
  | .keyRotationAck ack => (event.accepted hub).map fun _ => ack.ackEpoch
  | _ => none

theorem Event.publishes_step {hub : HubState} {event : Event} {epoch : Nat}
    (publishes : event.publishes hub = some epoch) :
    ∃ room after, event.before.room = some room ∧ (event.after hub).room = some after ∧
      room.helloSeen event.connId = true ∧ publishedEpoch room event.connId < epoch ∧
        publishedEpoch after event.connId = epoch := by
  unfold Event.publishes at publishes
  split at publishes
  · next frame op =>
      obtain ⟨action, accepts, rfl⟩ := Option.map_eq_some_iff.mp publishes
      obtain ⟨room, after, found, left⟩ := Event.accepted_room accepts
      refine ⟨room, after, found, left, ?_⟩
      have step := Event.ledgerStep left
      rw [HubRoom.opened_of_some found, op, accepts] at step
      cases step with
      | keyEpoch _ _ joined grows same =>
          have epochs : after.e2eeEpochs = room.e2eeEpochs.put event.connId frame.epoch :=
            congrArg Ledger.keyEpochs same
          exact ⟨joined, grows, by simp [publishedEpoch, epochs]⟩
  · cases publishes

theorem Event.acknowledges_step {hub : HubState} {event : Event} {epoch : Nat}
    (acknowledges : event.acknowledges hub = some epoch) :
    ∃ room after, event.before.room = some room ∧ (event.after hub).room = some after ∧
      room.helloSeen event.connId = true ∧ ackedEpoch room event.connId < epoch ∧
        ackedEpoch after event.connId = epoch := by
  unfold Event.acknowledges at acknowledges
  split at acknowledges
  · next ack op =>
      obtain ⟨action, accepts, rfl⟩ := Option.map_eq_some_iff.mp acknowledges
      obtain ⟨room, after, found, left⟩ := Event.accepted_room accepts
      refine ⟨room, after, found, left, ?_⟩
      have step := Event.ledgerStep left
      rw [HubRoom.opened_of_some found, op, accepts] at step
      cases step with
      | ackEpoch _ _ joined _ _ grows same =>
          have acks : after.keyRotationAckEpochs =
              room.keyRotationAckEpochs.put event.connId ack.ackEpoch :=
            congrArg Ledger.ackEpochs same
          exact ⟨joined, grows, by simp [ackedEpoch, acks]⟩
  · cases acknowledges

theorem Event.publishes_stays {hub : HubState} {event : Event} {epoch : Nat}
    (publishes : event.publishes hub = some epoch) : event.op.isDisconnect = false := by
  unfold Event.publishes at publishes
  split at publishes
  · next op => rw [op]; rfl
  · cases publishes

theorem Event.acknowledges_stays {hub : HubState} {event : Event} {epoch : Nat}
    (acknowledges : event.acknowledges hub = some epoch) : event.op.isDisconnect = false := by
  unfold Event.acknowledges at acknowledges
  split at acknowledges
  · next op => rw [op]; rfl
  · cases acknowledges

/-- Between two events of a connection that has joined, its epochs only grow. -/
theorem Trace.epochs_between {hub : HubState} {middle older : List Event} {first second : Event}
    (trace : Trace hub (second :: (middle ++ first :: older))) (same : first.connId = second.connId)
    (stays : first.op.isDisconnect = false) {room after before : RoomState}
    (was : first.before.room = some room) (joined : room.helloSeen first.connId = true)
    (left : (first.after hub).room = some after) (found : second.before.room = some before)
    (joinedLater : before.helloSeen second.connId = true) :
    publishedEpoch after second.connId ≤ publishedEpoch before second.connId ∧
      ackedEpoch after second.connId ≤ ackedEpoch before second.connId := by
  cases trace with
  | step past shared _ =>
      obtain ⟨origin, start, lawful⟩ := past.lawful middle
      have registered := origin.registered
      unfold roomAfter at registered
      rw [← start] at registered
      have still := lawful.joined_stays left registered.apart
        (by rw [HubRoom.opened_of_some was]; exact joined)
        fun leaves => by simp [stays] at leaves
      rw [same] at still
      exact past.epochs_grow left (RoomState.present_of_joined still) (shared ▸ found)
        (RoomState.present_of_joined joinedLater)

/-- The epoch of a connection changes only when it publishes another, and what it
acknowledged only when it acknowledges more, as long as it is in the room. -/
theorem Event.epochs_kept {hub : HubState} {event : Event} {room after : RoomState}
    {connId : ConnId} (found : event.before.room = some room)
    (left : (event.after hub).room = some after)
    (stays : after.participants.get? connId ≠ none) :
    (publishedEpoch after connId = publishedEpoch room connId ∨
      event.connId = connId ∧ event.publishes hub = some (publishedEpoch after connId)) ∧
    (ackedEpoch after connId = ackedEpoch room connId ∨
      event.connId = connId ∧ event.acknowledges hub = some (ackedEpoch after connId)) := by
  have step := (Event.ledgerStep left).keyStep connId
  rw [HubRoom.opened_of_some found] at step
  unfold publishedEpoch ackedEpoch
  cases step with
  | kept epochs acks => exact ⟨.inl (by rw [epochs]), .inl (by rw [acks])⟩
  | entered absent epochs acks => exact ⟨.inl (by rw [absent, epochs]; rfl), .inl (by rw [acks])⟩
  | published op accepted own _ _ epochs acks =>
      obtain ⟨action, accepts⟩ := Option.ne_none_iff_exists'.mp accepted
      refine ⟨.inr ⟨own, ?_⟩, .inl (by rw [acks])⟩
      simp [Event.publishes, op, accepts, epochs]
  | acked op accepted own _ _ _ epochs acks =>
      obtain ⟨action, accepts⟩ := Option.ne_none_iff_exists'.mp accepted
      refine ⟨.inl (by rw [epochs]), .inr ⟨own, ?_⟩⟩
      simp [Event.acknowledges, op, accepts, acks]
  | gone _ _ _ absent => exact absurd absent stays

/-- Saying hello again resets neither epoch. -/
theorem Event.hello_keeps_epochs {hub : HubState} {event : Event} {hello : HelloFrame}
    {snapshotAtMs deltaAtMs : Nat} (op : event.op = .hello hello snapshotAtMs deltaAtMs)
    {room after : RoomState} (found : event.before.room = some room)
    (left : (event.after hub).room = some after) (connId : ConnId) :
    publishedEpoch after connId = publishedEpoch room connId ∧
      ackedEpoch after connId = ackedEpoch room connId := by
  have step := (Event.ledgerStep left).keyStep connId
  rw [HubRoom.opened_of_some found, op] at step
  unfold publishedEpoch ackedEpoch
  cases step with
  | kept epochs acks => exact ⟨by rw [epochs], by rw [acks]⟩
  | entered absent epochs acks => exact ⟨by rw [absent, epochs]; rfl, by rw [acks]⟩
  | gone other => exact absurd rfl (other hello snapshotAtMs deltaAtMs)
  | published impossible | acked impossible => cases impossible

/-- Whoever disconnects leaves no epoch behind. -/
theorem Event.disconnect_epochs {hub : HubState} {event : Event}
    (leaves : event.op.isDisconnect = true) {after : RoomState}
    (left : (event.after hub).room = some after) :
    after.e2eeEpochs.get? event.connId = none ∧
      after.keyRotationAckEpochs.get? event.connId = none := by
  have step := (Event.ledgerStep left).keyStep event.connId
  cases step with
  | kept _ _ other => exact absurd rfl (other leaves)
  | gone _ epochs acks => exact ⟨epochs, acks⟩
  | entered _ _ _ _ stays =>
      rw [stays] at leaves
      cases leaves
  | published op | acked op => simp [op, Operation.isDisconnect] at leaves

/-- Whoever connects has no epoch yet. -/
theorem Lawful.connect_epochs {hub : HubState} {earlier : List Event} {event : Event}
    {after : RoomState} (lawful : Lawful hub earlier event)
    (left : (event.after hub).room = some after)
    (registered : Registered (event.before.opened hub)) {connectedAtMs : Nat}
    (connects : event.op = .connect connectedAtMs) :
    after.e2eeEpochs.get? event.connId = none ∧
      after.keyRotationAckEpochs.get? event.connId = none := by
  have absent := lawful.fresh connectedAtMs connects
  have step := Event.ledgerStep left
  rw [connects] at step
  generalize event.accepted hub = accepted at step
  have unknown : (event.before.opened hub).e2eeEpochs.get? event.connId = none := by
    by_contra known
    have joined := registered.published event.connId known
    simp [RoomState.helloSeen, absent] at joined
  cases step with
  | kept _ same =>
      have epochs : after.e2eeEpochs = (event.before.opened hub).e2eeEpochs :=
        congrArg Ledger.keyEpochs same
      have acks : after.keyRotationAckEpochs = (event.before.opened hub).keyRotationAckEpochs :=
        congrArg Ledger.ackEpochs same
      rw [epochs, acks]
      refine ⟨unknown, ?_⟩
      by_contra known
      obtain ⟨ack, found⟩ := Option.ne_none_iff_exists'.mp known
      exact (registered.acked event.connId ack found).1 unknown

/-- The epochs that a connection publishes strictly increase, and so do those that it
acknowledges, which never go beyond the published ones. Nothing but its own frames
changes them while it is in the room, no hello resets them, and they are gone when it
has left and when it comes back. -/
theorem keyEpochs_discipline {hub : HubState} {history : List Event} {system : System}
    (run : Run hub history system) :
    (∀ newer middle older first second,
      history = newer ++ second :: (middle ++ first :: older) →
      first.connId = second.connId →
      (∀ epoch later, first.publishes hub = some epoch → second.publishes hub = some later →
        epoch < later) ∧
      ∀ ack later, first.acknowledges hub = some ack → second.acknowledges hub = some later →
        ack < later) ∧
    (∀ room, system.shared.room = some room → ∀ connId ack,
      room.keyRotationAckEpochs.get? connId = some ack →
        ∃ epoch, room.e2eeEpochs.get? connId = some epoch ∧ ack ≤ epoch) ∧
    ∀ event ∈ history, ∀ after, (event.after hub).room = some after →
      (∀ room connId, event.before.room = some room → after.participants.get? connId ≠ none →
        (publishedEpoch after connId = publishedEpoch room connId ∨
          event.connId = connId ∧ event.publishes hub = some (publishedEpoch after connId)) ∧
        (ackedEpoch after connId = ackedEpoch room connId ∨
          event.connId = connId ∧ event.acknowledges hub = some (ackedEpoch after connId))) ∧
      (∀ room connId hello snapshotAtMs deltaAtMs, event.before.room = some room →
        event.op = .hello hello snapshotAtMs deltaAtMs →
          publishedEpoch after connId = publishedEpoch room connId ∧
            ackedEpoch after connId = ackedEpoch room connId) ∧
      (event.op.isDisconnect = true ∨ (∃ connectedAtMs, event.op = .connect connectedAtMs) →
        after.e2eeEpochs.get? event.connId = none ∧
          after.keyRotationAckEpochs.get? event.connId = none) := by
  obtain ⟨trace, shared⟩ := run.trace
  refine ⟨?_, ?_, ?_⟩
  · rintro newer middle older first second rfl same
    have trace := trace.suffix newer
    constructor
    · intro epoch later publishes publishesLater
      obtain ⟨room, after, was, left, joined, _, published⟩ := Event.publishes_step publishes
      obtain ⟨before, _, found, _, joinedLater, grows, _⟩ := Event.publishes_step publishesLater
      have between := trace.epochs_between same (Event.publishes_stays publishes) was joined left
        found joinedLater
      rw [same] at published
      rw [← published]
      exact between.1.trans_lt grows
    · intro ack later acknowledges acknowledgesLater
      obtain ⟨room, after, was, left, joined, _, acked⟩ := Event.acknowledges_step acknowledges
      obtain ⟨before, _, found, _, joinedLater, grows, _⟩ :=
        Event.acknowledges_step acknowledgesLater
      have between := trace.epochs_between same (Event.acknowledges_stays acknowledges) was joined
        left found joinedLater
      rw [same] at acked
      rw [← acked]
      exact between.2.trans_lt grows
  · intro room found connId ack known
    have registered := trace.registered
    rw [roomAfter_eq run found] at registered
    obtain ⟨published, within⟩ := registered.acked connId ack known
    obtain ⟨epoch, epochs⟩ := Option.ne_none_iff_exists'.mp published
    exact ⟨epoch, epochs, by simpa [publishedEpoch, epochs] using within⟩
  · intro event happened after left
    refine ⟨fun room connId found stays => Event.epochs_kept found left stays,
      fun room connId hello snapshotAtMs deltaAtMs found op =>
        Event.hello_keeps_epochs op found left connId, ?_⟩
    rintro (leaves | ⟨connectedAtMs, connects⟩)
    · exact Event.disconnect_epochs leaves left
    · obtain ⟨earlier, past, before, lawful⟩ := run.lawful happened
      have registered := past.registered
      unfold roomAfter at registered
      rw [← before] at registered
      exact lawful.connect_epochs left registered connects

/-- A digest of zeros, which is what the script's BLAKE3 computes. -/
def zeroHex : String := "0000000000000000000000000000000000000000000000000000000000000000"

def keyEpochOfAlice (epoch : Nat) : KaigiFrame :=
  .e2eeKeyEpoch {
    sentAtMs := epoch
    participantId := "alice@sora"
    epoch := epoch
    publicKeyHex := zeroHex
    signatureHex := zeroHex }

def ackOfAlice (epoch : Nat) : KaigiFrame :=
  .keyRotationAck { receivedAtMs := epoch, participantId := "alice@sora", ackEpoch := epoch }

def keyEpochsHub : HubState :=
  scriptedHub
    [helloAs "alice@sora", keyEpochOfAlice 1, keyEpochOfAlice 3, ackOfAlice 1, ackOfAlice 2]

/-- Alice publishes epoch 1 and acknowledges it, then epoch 3 of which she acknowledges 2. -/
def keyEpochsScript : List Move :=
  [.connect 1 0] ++ sendsFrame 1 0 1 25 ++ sendsFrame 1 1 2 7 ++ sendsFrame 1 3 3 7 ++
    sendsFrame 1 2 4 7 ++ sendsFrame 1 4 5 7

def keyEpochsCheck (history : List Event) (room : RoomState) : Bool :=
  room.keyRotationAckEpochs.get? 1 == some 2 &&
  match history.drop 2 with
  | [] => false
  | second :: rest =>
      match rest.drop 7 with
      | [] => false
      | first :: _ =>
          first.connId == 1 && second.connId == 1 &&
            first.acknowledges keyEpochsHub == some 1 && second.acknowledges keyEpochsHub == some 2

theorem keyEpochs_discipline_script :
    ∃ (history : List Event) (system : System) (first second : Event) (ack later : Nat)
      (room : RoomState), Run keyEpochsHub history system ∧ first ∈ history ∧ second ∈ history ∧
        first.acknowledges keyEpochsHub = some ack ∧
        second.acknowledges keyEpochsHub = some later ∧ ack < later ∧
        system.shared.room = some room ∧ room.keyRotationAckEpochs.get? 1 = some later ∧
        ∃ epoch, room.e2eeEpochs.get? 1 = some epoch ∧ later ≤ epoch := by
  obtain ⟨history, system, room, run, found, checks⟩ := Run.of_played_room keyEpochsHub
    keyEpochsScript keyEpochsCheck (by decide +kernel)
  unfold keyEpochsCheck at checks
  obtain ⟨known, checks⟩ := (Bool.and_eq_true _ _).mp checks
  split at checks
  · cases checks
  · next second rest afterSecond =>
      split at checks
      · cases checks
      · next first older afterFirst =>
          simp only [Bool.and_eq_true, beq_iff_eq] at known checks
          obtain ⟨⟨⟨alice, again⟩, acknowledges⟩, acknowledgesLater⟩ := checks
          have split : history = history.take 2 ++ second :: (rest.take 7 ++ first :: older) := by
            rw [← afterFirst, List.take_append_drop, ← afterSecond, List.take_append_drop]
          have among : first ∈ history ∧ second ∈ history := by
            rw [split]
            simp
          obtain ⟨increase, within, _⟩ := keyEpochs_discipline run
          exact ⟨history, system, first, second, 1, 2, room, run, among.1, among.2, acknowledges,
            acknowledgesLater, (increase _ _ _ _ _ split (alice.trans again.symm)).2 1 2
              acknowledges acknowledgesLater, found, known, within room found 1 2 known⟩

end Kaigi.Hub
