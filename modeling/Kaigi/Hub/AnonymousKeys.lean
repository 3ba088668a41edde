import Kaigi.Client.AnonymousPeers
import Kaigi.Hub.AnonymousDuties
import Kaigi.Hub.Identities

/-!
# Handles and keys

Whoever is anonymous has joined under a handle with a key. Which key goes with a
handle changes only by the operations that everybody is told about.
-/

set_option autoImplicit false

namespace Kaigi.Hub

open Collections Wire Interleaving Authority

/-- Transparent without a handle, or joined under a handle with a usable key. -/
inductive Credentials (usable : String → Prop) (participant : ParticipantState) : Prop where
  | transparent : participant.anonymousMode = false → participant.participantHandle = none →
      Credentials usable participant
  | anonymous {handle key : String} : participant.anonymousMode = true →
      participant.helloSeen = true → participant.waitingRoomPending = false →
      participant.participantHandle = some handle → participant.x25519PubkeyHex = some key →
      usable key → Credentials usable participant

def Credentialed (usable : String → Prop) (room : RoomState) : Prop :=
  ∀ connId participant, room.participants.get? connId = some participant →
    Credentials usable participant

/-- The participant is known as before. -/
structure KeepsCredentials (old new : ParticipantState) : Prop where
  handle : new.participantHandle = old.participantHandle
  key : new.x25519PubkeyHex = old.x25519PubkeyHex
  anonymous : new.anonymousMode = old.anonymousMode
  joined : old.helloSeen = true → new.helloSeen = true
  admitted : old.waitingRoomPending = false → new.waitingRoomPending = false

theorem KeepsCredentials.refl (participant : ParticipantState) :
    KeepsCredentials participant participant :=
  ⟨rfl, rfl, rfl, id, id⟩

theorem KeepsCredentials.trans {first second third : ParticipantState}
    (earlier : KeepsCredentials first second) (later : KeepsCredentials second third) :
    KeepsCredentials first third where
  handle := later.handle.trans earlier.handle
  key := later.key.trans earlier.key
  anonymous := later.anonymous.trans earlier.anonymous
  joined := later.joined ∘ earlier.joined
  admitted := later.admitted ∘ earlier.admitted

theorem KeepsCredentials.credentials {usable : String → Prop} {old new : ParticipantState}
    (keeps : KeepsCredentials old new) (credentials : Credentials usable old) :
    Credentials usable new := by
  cases credentials with
  | transparent transparent unnamed =>
      exact .transparent (keeps.anonymous.trans transparent) (keeps.handle.trans unnamed)
  | anonymous anonymous joined admitted named known holds =>
      exact .anonymous (keeps.anonymous.trans anonymous) (keeps.joined joined)
        (keeps.admitted admitted) (keeps.handle.trans named) (keeps.key.trans known) holds

/-- How a participant of the room after an event came to be known as it is. -/
inductive Introduced (hub : HubState) (event : Event) (connId : ConnId) (new : ParticipantState) :
    Prop where
  | before {old : ParticipantState} :
      (event.before.opened hub).participants.get? connId = some old → KeepsCredentials old new →
      Introduced hub event connId new
  | transparent : new.anonymousMode = false → new.participantHandle = none →
      (event.before.opened hub).anonymousMode = false ∨
        (event.before.opened hub).participants.get? connId = none →
      Introduced hub event connId new
  | bound {handle key : String} {old : ParticipantState} : event.connId = connId →
      event.op.binds hub connId (event.before.opened hub) = some (handle, key) →
      (event.before.opened hub).participants.get? connId = some old →
      (∀ named, old.participantHandle = some named → named = handle) →
      new.anonymousMode = true → new.helloSeen = true →
      (new.waitingRoomPending = false ∨
        old.anonymousMode = true ∧ new.waitingRoomPending = old.waitingRoomPending) →
      new.participantHandle = some handle → new.x25519PubkeyHex = some key →
      Introduced hub event connId new

theorem shouldApplyGroupKeyUpdate_later {currentEpoch updateEpoch : Nat}
    {currentPubkeyHex : Option String} {updatePubkeyHex : String}
    (applies : shouldApplyGroupKeyUpdate currentEpoch currentPubkeyHex updateEpoch updatePubkeyHex =
      .ok true) : currentEpoch < updateEpoch := by
  unfold shouldApplyGroupKeyUpdate at applies
  split at applies
  · cases applies
  · split at applies
    · cases applies
    · next notStale =>
        split at applies
        · split at applies <;> cases applies
        · next different => omega

theorem validateAnonSender_passed {participant : ParticipantState} {handle mismatch : String}
    (passed : validateAnonSender participant handle mismatch = none) :
    participant.helloSeen = true ∧ participant.anonymousMode = true ∧
      participant.participantHandle = some handle := by
  unfold validateAnonSender at passed
  split at passed
  · cases passed
  · next joined =>
      split at passed
      · cases passed
      · next named =>
          simp only [Bool.or_eq_true, Bool.not_eq_true', not_or, Bool.not_eq_false] at joined
          exact ⟨joined.1, joined.2, not_not.mp named⟩

/-- A key update is relayed exactly when it is applied. -/
theorem groupKeyUpdateSection_cases (room : RoomState) (connId : ConnId)
    (update : GroupKeyUpdateFrame) :
    ((groupKeyUpdateSection room connId update).1 = room ∧
      (groupKeyUpdateSection room connId update).2 ≠ .relay) ∨
    ∃ participant, room.participants.get? connId = some participant ∧
      participant.helloSeen = true ∧ participant.anonymousMode = true ∧
      participant.participantHandle = some update.participantHandle ∧
      participant.x25519Epoch < update.epoch ∧
      groupKeyUpdateSection room connId update =
        (room.updateParticipant connId fun participant => { participant with
          x25519PubkeyHex := some update.x25519PubkeyHex
          x25519Epoch := update.epoch }, .relay) := by
  unfold groupKeyUpdateSection
  split
  · exact .inl ⟨rfl, fun same => by cases same⟩
  · split
    · exact .inl ⟨rfl, fun same => by cases same⟩
    · split
      · exact .inl ⟨rfl, fun same => by cases same⟩
      · next participant found =>
          split
          · exact .inl ⟨rfl, fun same => by cases same⟩
          · next valid =>
              split
              · exact .inl ⟨rfl, fun same => by cases same⟩
              · exact .inl ⟨rfl, fun same => by cases same⟩
              · next applies =>
                  obtain ⟨joined, anonymous, named⟩ := validateAnonSender_passed valid
                  exact .inr ⟨participant, found, joined, anonymous, named,
                    shouldApplyGroupKeyUpdate_later applies, rfl⟩

theorem anonHelloSection_accepted {hub : HubState} {room : RoomState} {connId : ConnId}
    {hello : AnonHelloFrame} {nowMs rosterAtMs : Nat} {participant joined : ParticipantState}
    (admits : anonHelloAdmits hub room connId hello = true)
    (found : room.participants.get? connId = some participant)
    (applied : applyAnonHelloState participant hello nowMs = .ok joined) :
    (Operation.anonHello hello nowMs rosterAtMs).binds hub connId room =
      some (hello.participantHandle, hello.x25519PubkeyHex) := by
  have announced : ∀ enter : RoomState → RoomState, ∃ roster update rotate,
      (announceAnonHello hub room connId hello nowMs rosterAtMs enter).2 =
        .accepted roster update rotate := by
    intro enter
    unfold announceAnonHello
    rw [found]
    dsimp only
    rw [applied]
    exact ⟨_, _, _, rfl⟩
  have accepted : ∃ roster update rotate,
      (anonHelloSection hub room connId hello nowMs rosterAtMs).2 =
        .accepted roster update rotate := by
    unfold anonHelloAdmits at admits
    simp only [Bool.and_eq_true, Option.isNone_iff_eq_none] at admits
    obtain ⟨⟨handle, capacity⟩, enters⟩ := admits
    unfold anonHelloSection
    rw [handle, capacity]
    dsimp only
    split
    · next transparent =>
        rw [Bool.not_eq_true'] at transparent
        rw [transparent, Bool.false_or, Bool.and_eq_true] at enters
        obtain ⟨nobody, surcharge⟩ := enters
        split
        · next somebody =>
            obtain ⟨current, member, joined⟩ := List.any_eq_true.mp somebody
            have absent := List.all_eq_true.mp nobody current member
            rw [joined] at absent
            cases absent
        · split
          · next refused =>
              rw [refused] at surcharge
              cases surcharge
          · exact announced _
    · exact announced _
  obtain ⟨roster, update, rotate, outcome⟩ := accepted
  simp only [Operation.binds, outcome]

/-- What an operation other than `GroupKeyUpdate` writes into a participant keeps its
credentials or makes it transparent. -/
theorem Rewrites.credentials {room : RoomState} {actor connId : ConnId} {op : Operation}
    {old new : ParticipantState}
    (steps : Relation.ReflTransGen (Rewrites room actor op connId) old new)
    (other : ∀ update, op ≠ .groupKeyUpdate update) :
    KeepsCredentials old new ∨ new.anonymousMode = false ∧ new.participantHandle = none ∧
      room.anonymousMode = false := by
  induction steps with
  | refl => exact .inl (.refl old)
  | tail _ rewrites ih =>
      cases rewrites with
      | hello _ transparent => exact .inr ⟨rfl, rfl, transparent⟩
      | rekeyed => exact absurd rfl (other _)
      | admitted waiting =>
          rcases ih with ⟨handle, key, anonymous, joined, admitted⟩ | transparent
          · exact .inl ⟨handle, key, anonymous, fun _ => rfl, fun _ => rfl⟩
          · exact .inr transparent
      | escrowed | state | track | silenced =>
          rcases ih with keeps | transparent
          · exact .inl (keeps.trans ⟨rfl, rfl, rfl, id, id⟩)
          · exact .inr transparent

theorem Lawful.introduced {hub : HubState} {earlier : List Event} {event : Event}
    {after : RoomState} (lawful : Lawful hub earlier event)
    (left : (event.after hub).room = some after) {connId : ConnId} {new : ParticipantState}
    (found : after.participants.get? connId = some new) : Introduced hub event connId new := by
  by_cases rekeys : ∃ update, event.op = .groupKeyUpdate update
  · obtain ⟨update, op⟩ := rekeys
    obtain ⟨actor, task, _, state⟩ := event
    subst op
    obtain ⟨room, present, rfl⟩ := Option.map_eq_some_iff.mp left
    have opened : state.opened hub = room := HubRoom.opened_of_some present
    change (groupKeyUpdateSection room actor update).1.participants.get? connId = some new at found
    rcases groupKeyUpdateSection_cases room actor update with ⟨same, _⟩ |
      ⟨participant, known, joined, anonymous, named, _, applied⟩
    · rw [same] at found
      exact .before (opened ▸ found) (.refl new)
    · rw [applied] at found
      simp only [RoomState.updateParticipant, HashMap.get?_modify] at found
      split at found
      · next same =>
          subst same
          rw [known] at found
          cases found
          refine .bound rfl ?_ (opened ▸ known) ?_ anonymous joined (.inr ⟨anonymous, rfl⟩) named
            rfl
          · simp only [Operation.binds, opened, applied]
          · exact fun other same => Option.some.inj (same.symm.trans named)
      · exact .before (opened ▸ found) (.refl new)
  · have origin := Event.origin left found
    cases origin with
    | connects connects own fresh =>
        subst fresh
        refine .transparent rfl rfl (.inr ?_)
        rw [← own]
        exact lawful.fresh _ connects
    | billed was billed =>
        rw [billed]
        exact .before was ⟨rfl, rfl, rfl, id, id⟩
    | rewritten was steps =>
        rcases Rewrites.credentials steps fun update same => rekeys ⟨update, same⟩ with
          keeps | ⟨transparent, unnamed, mode⟩
        · exact .before was keeps
        · exact .transparent transparent unnamed (.inl mode)
    | @anonHello hello nowMs rosterAtMs old op own was admits applied =>
        have binds : (Operation.anonHello hello nowMs rosterAtMs).binds hub connId _ = _ :=
          anonHelloSection_accepted admits was applied
        unfold applyAnonHelloState at applied
        dsimp only at applied
        split at applied
        · cases applied
        · cases applied
          exact .bound own (op ▸ binds) was
            (fun named same => (anonHelloAdmits_handle admits).2 old named was same) rfl rfl
            (.inl rfl) rfl rfl

/-- Every key that an event puts into the room is usable. -/
def Event.BindsUsable (hub : HubState) (usable : String → Prop) (event : Event) : Prop :=
  ∀ handle key, event.op.binds hub event.connId (event.before.opened hub) = some (handle, key) →
    usable key

theorem Lawful.credentialed {hub : HubState} {usable : String → Prop} {earlier : List Event}
    {event : Event} {after : RoomState} (lawful : Lawful hub earlier event)
    (binds : event.BindsUsable hub usable)
    (credentialed : Credentialed usable (event.before.opened hub))
    (left : (event.after hub).room = some after) : Credentialed usable after := by
  intro connId new found
  cases lawful.introduced left found with
  | before was keeps => exact keeps.credentials (credentialed connId _ was)
  | transparent transparent unnamed => exact .transparent transparent unnamed
  | @bound handle key old own bound was _ anonymous joined admitted named known =>
      subst own
      refine .anonymous anonymous joined ?_ named known (binds handle key bound)
      rcases admitted with admitted | ⟨wasAnonymous, same⟩
      · exact admitted
      · cases credentialed _ old was with
        | transparent transparent => rw [transparent] at wasAnonymous; cases wasAnonymous
        | anonymous _ _ admitted => exact same.trans admitted

theorem Trace.credentialed {hub : HubState} {usable : String → Prop} {history : List Event}
    (trace : Trace hub history) (binds : ∀ event ∈ history, event.BindsUsable hub usable) :
    Credentialed usable (roomAfter hub history) := by
  refine Trace.room (fun past room => (∀ event ∈ past, event ∈ history) → Credentialed usable room)
    ?_ ?_ trace fun _ member => member
  · intro _ _ connId participant found
    simp [emptyRoom] at found
  · intro earlier event after _ lawful _ ih left among
    exact lawful.credentialed (binds event (among event List.mem_cons_self))
      (ih fun past member => among past (List.mem_cons_of_mem _ member)) left

/-! ### Bindings -/

/-- Somebody in the room has the handle, and this is its key. -/
def RoomState.Binds (room : RoomState) (handle key : String) : Prop :=
  ∃ connId participant, room.participants.get? connId = some participant ∧
    participant.participantHandle = some handle ∧ participant.x25519PubkeyHex = some key

/-- The key of whoever has the handle. -/
def RoomState.keyOf (room : RoomState) (handle : String) : Option String :=
  (room.participants.values.find? (·.participantHandle == some handle)).bind (·.x25519PubkeyHex)

theorem Credentials.named {usable : String → Prop} {participant : ParticipantState}
    {handle : String} (credentials : Credentials usable participant)
    (named : participant.participantHandle = some handle) :
    participant.anonymousMode = true ∧ participant.helloSeen = true ∧
      participant.waitingRoomPending = false ∧
        ∃ key, participant.x25519PubkeyHex = some key ∧ usable key := by
  cases credentials with
  | transparent _ unnamed => rw [unnamed] at named; cases named
  | anonymous anonymous joined admitted _ known holds =>
      exact ⟨anonymous, joined, admitted, _, known, holds⟩

theorem Credentialed.keyOf {usable : String → Prop} {room : RoomState} {handle key : String}
    (credentialed : Credentialed usable room) (bound : room.keyOf handle = some key) :
    usable key := by
  obtain ⟨participant, first, known⟩ := Option.bind_eq_some_iff.mp bound
  obtain ⟨connId, present⟩ := HashMap.mem_values.mp (List.mem_of_find?_eq_some first)
  have named : participant.participantHandle = some handle := by simpa using List.find?_some first
  obtain ⟨_, _, _, other, same, holds⟩ := (credentialed connId participant present).named named
  rw [known] at same
  cases same
  exact holds

theorem RoomState.keyOf_eq_some {usable : String → Prop} {room : RoomState} {handle key : String}
    (credentialed : Credentialed usable room) (unique : UniqueHandles room) :
    room.keyOf handle = some key ↔ room.Binds handle key := by
  unfold RoomState.keyOf
  constructor
  · intro found
    obtain ⟨participant, first, known⟩ := Option.bind_eq_some_iff.mp found
    obtain ⟨connId, present⟩ := HashMap.mem_values.mp (List.mem_of_find?_eq_some first)
    have named := List.find?_some first
    exact ⟨connId, participant, present, by simpa using named, known⟩
  · rintro ⟨connId, participant, present, named, known⟩
    have listed : (room.participants.values.find?
        (·.participantHandle == some handle)).isSome = true :=
      List.find?_isSome.mpr ⟨participant, HashMap.mem_values.mpr ⟨connId, present⟩, by simp [named]⟩
    obtain ⟨first, found⟩ := Option.isSome_iff_exists.mp listed
    obtain ⟨other, same⟩ := HashMap.mem_values.mp (List.mem_of_find?_eq_some found)
    have alike : first.participantHandle = some handle := by simpa using List.find?_some found
    have equal : connId = other := unique connId other participant first handle present same
      ((credentialed connId participant present).named named).1
      ((credentialed other first same).named alike).1 named alike
    subst equal
    rw [present] at same
    cases same
    rw [found, Option.bind_some, known]

/-- A handle that nobody is told about has no other key than before. -/
theorem Lawful.binds {hub : HubState} {earlier : List Event} {event : Event} {after : RoomState}
    {handle key : String} (lawful : Lawful hub earlier event)
    (left : (event.after hub).room = some after)
    (silent : ∀ other, event.op.binds hub event.connId (event.before.opened hub) ≠
      some (handle, other))
    (binds : after.Binds handle key) : (event.before.opened hub).Binds handle key := by
  obtain ⟨connId, new, found, named, known⟩ := binds
  cases lawful.introduced left found with
  | @before old was keeps =>
      exact ⟨connId, old, was, keeps.handle.symm.trans named, keeps.key.symm.trans known⟩
  | transparent _ unnamed => rw [unnamed] at named; cases named
  | bound own bound _ _ _ _ _ named' =>
      rw [named] at named'
      cases named'
      subst own
      exact absurd bound (silent _)

theorem Operation.action_ne_leave {op : Operation} {room : RoomState} {actor connId : ConnId}
    (stays : op.isDisconnect = false) : op.action room actor ≠ .leave connId := by
  intro leaves
  rw [(Operation.leaves leaves).1] at stays
  cases stays

/-- A key stays while nobody is told about its handle and nobody leaves. -/
theorem Lawful.binds_stays {hub : HubState} {usable : String → Prop} {earlier : List Event}
    {event : Event} {after : RoomState} {handle key : String} (lawful : Lawful hub earlier event)
    (separated : event.before.Separated)
    (credentialed : Credentialed usable (event.before.opened hub))
    (left : (event.after hub).room = some after)
    (silent : ∀ other, event.op.binds hub event.connId (event.before.opened hub) ≠
      some (handle, other))
    (stays : event.op.isDisconnect = false)
    (binds : (event.before.opened hub).Binds handle key) : after.Binds handle key := by
  obtain ⟨connId, old, was, named, known⟩ := binds
  obtain ⟨anonymous, joined, admitted, _⟩ := (credentialed connId old was).named named
  have remains := (lawful.step left).remains (members_groupOf was) admitted
    (Operation.action_ne_leave stays)
  obtain ⟨_, found⟩ := Option.isSome_iff_exists.mp remains
  obtain ⟨new, present, _⟩ := members_groupOf_eq_some.mp found
  cases lawful.introduced left present with
  | before same keeps =>
      rw [was] at same
      cases same
      exact ⟨connId, new, present, keeps.handle.trans named, keeps.key.trans known⟩
  | transparent _ _ fresh =>
      have apart : ModeSeparated (groupOf (event.before.opened hub)) := separated.opened
      rcases fresh with mode | absent
      · have plain : old.anonymousMode = false :=
          apart.transparent mode connId _ (members_groupOf was)
        rw [anonymous] at plain
        cases plain
      · rw [was] at absent
        cases absent
  | bound own bound same unchanged =>
      rw [was] at same
      cases same
      have same := unchanged handle named
      subst own
      subst same
      exact absurd bound (silent _)

/-- In a transparent room nobody has a handle. -/
theorem not_binds_transparent {hub : HubState} {usable : String → Prop} {state : HubRoom}
    {handle key : String} (separated : state.Separated)
    (credentialed : Credentialed usable (state.opened hub))
    (transparent : (state.opened hub).anonymousMode = false) :
    ¬ (state.opened hub).Binds handle key := by
  rintro ⟨connId, participant, found, named, _⟩
  obtain ⟨anonymous, _⟩ := (credentialed connId participant found).named named
  have apart : ModeSeparated (groupOf (state.opened hub)) := separated.opened
  have plain : participant.anonymousMode = false :=
    apart.transparent transparent connId _ (members_groupOf found)
  rw [anonymous] at plain
  cases plain

theorem HubRoom.opened_found {hub : HubState} {state : HubRoom} {connId : ConnId}
    {participant : ParticipantState}
    (found : (state.opened hub).participants.get? connId = some participant) :
    ∃ room, state.room = some room ∧ state.opened hub = room := by
  cases present : state.room with
  | none => simp [HubRoom.opened, present, emptyRoom] at found
  | some room => exact ⟨room, rfl, HubRoom.opened_of_some present⟩

theorem disconnectSection_stays {room after : RoomState} {connId : ConnId}
    {deltaAtMs leftAtMs : Nat}
    (remains : (disconnectSection room connId deltaAtMs leftAtMs).1 = some after) :
    (disconnectSection room connId deltaAtMs leftAtMs).2.removeRoom = false ∧
      (disconnectSection room connId deltaAtMs leftAtMs).2.anonymousMode = room.anonymousMode := by
  have succeeds : ∀ (changed : Bool) (current : RoomState),
      (if changed then (succeedHost current).bumpPermissionsEpoch else current).anonymousMode =
        current.anonymousMode := by
    intro changed current
    split <;> rfl
  have numbers : ∀ (known : Bool) (current : RoomState),
      (if known then current.bumpPresenceSequence else current).anonymousMode =
        current.anonymousMode := by
    intro known current
    split <;> rfl
  unfold disconnectSection at remains ⊢
  dsimp only at remains ⊢
  split at remains
  · cases remains
  · next others =>
      rw [if_neg others]
      exact ⟨rfl, (numbers _ _).trans (succeeds _ _)⟩

/-- The key of a handle changes only when somebody is told. -/
theorem Lawful.keyOf {hub : HubState} {usable : String → Prop} {earlier : List Event}
    {event : Event} {room after : RoomState} {target : ConnId} {handle : String}
    (lawful : Lawful hub earlier event) (separated : event.before.Separated)
    (found : event.before.room = some room) (left : (event.after hub).room = some after)
    (credentialed : Credentialed usable room) (unique : UniqueHandles room)
    (usableAfter : Credentialed usable after) (uniqueAfter : UniqueHandles after)
    (uncalled : ¬ (keyDuty hub).calls event target handle) :
    after.keyOf handle = room.keyOf handle := by
  have opened : event.before.opened hub = room := HubRoom.opened_of_some found
  have silent : ∀ other, event.op.binds hub event.connId (event.before.opened hub) ≠
      some (handle, other) := fun other binds =>
    uncalled ⟨room, found, .inl ⟨handle, other, opened ▸ binds, .inr rfl⟩⟩
  have stays : event.op.leavesAnonymously event.connId room = false :=
    Bool.eq_false_of_not_eq_true fun leaves => uncalled ⟨room, found, .inr leaves⟩
  rw [← opened] at credentialed
  refine Option.ext fun key => ?_
  rw [RoomState.keyOf_eq_some usableAfter uniqueAfter, ← opened,
    RoomState.keyOf_eq_some credentialed (opened ▸ unique)]
  refine ⟨lawful.binds left silent, fun binds => ?_⟩
  cases disconnects : event.op.isDisconnect with
  | false => exact lawful.binds_stays separated credentialed left silent disconnects binds
  | true =>
      -- Whoever leaves silently leaves a transparent room.
      refine absurd binds (not_binds_transparent separated credentialed ?_)
      rw [opened]
      obtain ⟨actor, task, op, state⟩ := event
      dsimp only at found disconnects stays left
      cases op with
      | disconnect deltaAtMs leftAtMs =>
          change (state.room.bind fun room =>
            (disconnectSection room actor deltaAtMs leftAtMs).1) = some after at left
          rw [found, Option.bind_some] at left
          obtain ⟨kept, mode⟩ := disconnectSection_stays left
          simpa [Operation.leavesAnonymously, kept, mode] using stays
      | _ => cases disconnects

end Kaigi.Hub
