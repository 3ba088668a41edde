import Kaigi.Hub.KeyRelays

/-!
# The binding of anonymous keys

The key of an anonymous connection is bound to its handle by an epoch that only goes
up. Sealed control frames name the epoch that their sender has and are sealed for
members of the room.
-/

set_option autoImplicit false

namespace Kaigi.Hub

open Collections Wire Interleaving Authority

/-- Without a key, or anonymous with a key of a positive epoch. -/
inductive Keyed (participant : ParticipantState) : Prop where
  | bare : participant.anonymousMode = false → participant.x25519Epoch = 0 →
      participant.x25519PubkeyHex = none → Keyed participant
  | bound {key : String} : participant.anonymousMode = true → participant.helloSeen = true →
      1 ≤ participant.x25519Epoch → participant.x25519PubkeyHex = some key → Keyed participant

/-- The epoch does not go back, and another key comes with a later epoch. -/
structure Rebinds (old new : ParticipantState) : Prop where
  grows : old.x25519Epoch ≤ new.x25519Epoch
  bound : new.x25519PubkeyHex ≠ old.x25519PubkeyHex → old.x25519Epoch < new.x25519Epoch

theorem Rebinds.refl (participant : ParticipantState) : Rebinds participant participant :=
  ⟨Nat.le_refl _, fun other => absurd rfl other⟩

theorem Rebinds.trans {first second third : ParticipantState} (earlier : Rebinds first second)
    (later : Rebinds second third) : Rebinds first third where
  grows := earlier.grows.trans later.grows
  bound other := by
    by_cases same : second.x25519PubkeyHex = first.x25519PubkeyHex
    · exact earlier.grows.trans_lt (later.bound (same ▸ other))
    · exact (earlier.bound same).trans_le later.grows

/-- Under one epoch there is one key. -/
theorem Rebinds.key_eq {old new : ParticipantState} (rebinds : Rebinds old new)
    (epoch : new.x25519Epoch = old.x25519Epoch) : new.x25519PubkeyHex = old.x25519PubkeyHex := by
  by_contra other
  exact absurd (rebinds.bound other) (by simp [epoch])

/-- The participant has the key it had. -/
structure SameKey (old new : ParticipantState) : Prop where
  anonymous : new.anonymousMode = old.anonymousMode
  epoch : new.x25519Epoch = old.x25519Epoch
  key : new.x25519PubkeyHex = old.x25519PubkeyHex
  joined : old.helloSeen = true → new.helloSeen = true

theorem SameKey.rebinds {old new : ParticipantState} (same : SameKey old new) :
    Rebinds old new :=
  ⟨same.epoch.ge, fun other => absurd same.key other⟩

theorem SameKey.keyed {old new : ParticipantState} (same : SameKey old new) (keyed : Keyed old) :
    Keyed new := by
  cases keyed with
  | bare transparent epoch key =>
      exact .bare (same.anonymous.trans transparent) (same.epoch.trans epoch) (same.key.trans key)
  | bound anonymous joined positive key =>
      exact .bound (same.anonymous.trans anonymous) (same.joined joined)
        (positive.trans same.epoch.ge) (same.key.trans key)

/-- A `Hello` finds nothing to take back. -/
theorem Keyed.sameKey_hello {participant : ParticipantState} (keyed : Keyed participant)
    (transparent : participant.anonymousMode = false) :
    participant.x25519Epoch = 0 ∧ participant.x25519PubkeyHex = none := by
  cases keyed with
  | bare _ epoch key => exact ⟨epoch, key⟩
  | bound anonymous => rw [transparent] at anonymous; cases anonymous

/-- What an operation other than `GroupKeyUpdate` writes into a participant leaves its key
alone. -/
theorem Rewrites.rebinds {room : RoomState} {actor connId : ConnId} {op : Operation}
    {old new : ParticipantState}
    (steps : Relation.ReflTransGen (Rewrites room actor op connId) old new)
    (other : ∀ update, op ≠ .groupKeyUpdate update) (keyed : Keyed old)
    (plain : room.anonymousMode = false → old.anonymousMode = false) :
    Rebinds old new ∧ Keyed new ∧ (room.anonymousMode = false → new.anonymousMode = false) := by
  induction steps with
  | refl => exact ⟨.refl old, keyed, plain⟩
  | @tail middle last _ rewrites ih =>
      obtain ⟨rebinds, keyed, plain⟩ := ih
      have kept : SameKey middle last → Rebinds old last ∧ Keyed last ∧
          (room.anonymousMode = false → last.anonymousMode = false) := fun same =>
        ⟨rebinds.trans same.rebinds, same.keyed keyed, fun mode =>
          same.anonymous.trans (plain mode)⟩
      cases rewrites with
      | hello _ mode =>
          obtain ⟨epoch, key⟩ := keyed.sameKey_hello (plain mode)
          refine ⟨rebinds.trans ⟨?_, fun different => ?_⟩, .bare rfl rfl rfl, fun _ => rfl⟩
          · exact epoch.le
          · exact absurd key.symm different
      | rekeyed => exact absurd rfl (other _)
      | admitted waiting => exact kept ⟨rfl, rfl, rfl, fun _ => rfl⟩
      | escrowed | state | track | silenced => exact kept ⟨rfl, rfl, rfl, id⟩

/-- An anonymous hello gives the first key, or finds the key that is there. -/
theorem applyAnonHelloState_rebinds {participant joined : ParticipantState}
    {hello : AnonHelloFrame} {nowMs : Nat}
    (applied : applyAnonHelloState participant hello nowMs = .ok joined)
    (keyed : Keyed participant) : Rebinds participant joined ∧ Keyed joined := by
  unfold applyAnonHelloState at applied
  dsimp only at applied
  split at applied
  · cases applied
  · next free =>
      cases applied
      cases keyed with
      | bare _ epoch key =>
          refine ⟨⟨?_, fun _ => ?_⟩, .bound rfl rfl ?_ rfl⟩ <;> simp [epoch]
      | @bound current anonymous entered positive key =>
          have same : current = hello.x25519PubkeyHex := by
            simpa [anonymous, entered, key] using free
          have known : participant.x25519Epoch ≠ 0 := Nat.ne_of_gt positive
          refine ⟨⟨?_, fun different => ?_⟩, .bound rfl rfl ?_ rfl⟩
          · simp [known]
          · exact absurd (by rw [key, same]) different
          · simpa [known] using positive

/-- Everybody in the room is keyed. -/
def KeyedRoom (room : RoomState) : Prop :=
  ∀ connId participant, room.participants.get? connId = some participant → Keyed participant

section Runs

variable {hub : HubState} {connId : ConnId} {history newer older : List Event} {system : System}

/-- What an event does to the key of a participant. -/
theorem Lawful.rebinds {earlier : List Event} {event : Event} {after : RoomState}
    {new : ParticipantState} (lawful : Lawful hub earlier event)
    (separated : event.before.Separated) (keyed : KeyedRoom (event.before.opened hub))
    (left : (event.after hub).room = some after)
    (found : after.participants.get? connId = some new) :
    Keyed new ∧ ∀ old, (event.before.opened hub).participants.get? connId = some old →
      Rebinds old new := by
  have one : ∀ {old : ParticipantState},
      (event.before.opened hub).participants.get? connId = some old → Rebinds old new →
      Keyed new → Keyed new ∧ ∀ old,
        (event.before.opened hub).participants.get? connId = some old → Rebinds old new := by
    intro old was rebinds keyed
    refine ⟨keyed, fun other same => ?_⟩
    rw [was] at same
    cases same
    exact rebinds
  by_cases rekeys : ∃ update, event.op = .groupKeyUpdate update
  · obtain ⟨update, op⟩ := rekeys
    obtain ⟨actor, task, _, state⟩ := event
    subst op
    obtain ⟨room, present, rfl⟩ := Option.map_eq_some_iff.mp left
    have opened : state.opened hub = room := HubRoom.opened_of_some present
    rw [opened] at keyed one
    change Keyed new ∧ ∀ old, (state.opened hub).participants.get? connId = some old →
      Rebinds old new
    rw [opened]
    change (groupKeyUpdateSection room actor update).1.participants.get? connId = some new at found
    rcases groupKeyUpdateSection_cases room actor update with ⟨same, _⟩ |
      ⟨participant, known, joined, anonymous, _, later, applied⟩
    · rw [same] at found
      exact one found (.refl new) (keyed connId new found)
    · rw [applied] at found
      simp only [RoomState.updateParticipant, HashMap.get?_modify] at found
      split at found
      · next same =>
          subst same
          rw [known] at found
          cases found
          exact one known ⟨later.le, fun _ => later⟩
            (.bound anonymous joined (Nat.one_le_of_lt later) rfl)
      · exact one found (.refl new) (keyed connId new found)
  · cases Event.origin left found with
    | connects connects own fresh =>
        subst fresh
        refine ⟨.bare rfl rfl rfl, fun old was => ?_⟩
        rw [← own, lawful.fresh _ connects] at was
        cases was
    | @billed old was billed =>
        have same : SameKey old new := by
          rw [billed]
          exact ⟨rfl, rfl, rfl, id⟩
        exact one was same.rebinds (same.keyed (keyed connId old was))
    | @rewritten old was steps =>
        have plain : (event.before.opened hub).anonymousMode = false →
            old.anonymousMode = false := by
          have apart : ModeSeparated (groupOf (event.before.opened hub)) := separated.opened
          exact fun mode => apart.transparent mode connId _ (members_groupOf was)
        obtain ⟨rebinds, keyedNew, _⟩ := Rewrites.rebinds steps
          (fun update same => rekeys ⟨update, same⟩) (keyed connId old was) plain
        exact one was rebinds keyedNew
    | @anonHello hello nowMs rosterAtMs old op own was admits applied =>
        obtain ⟨rebinds, keyedNew⟩ := applyAnonHelloState_rebinds applied (keyed connId old was)
        exact one was rebinds keyedNew

theorem Trace.keyed (trace : Trace hub history) : KeyedRoom (roomAfter hub history) := by
  refine Trace.room (fun _ room => KeyedRoom room) ?_ ?_ trace
  · intro _ connId participant found
    simp [emptyRoom] at found
  · exact fun _ _ _ past lawful same keyed left connId new found =>
      (lawful.rebinds (same ▸ past.separated) keyed left found).1

/-- As long as a connection stays, its key is bound to its epoch. -/
theorem Trace.rebinds (trace : Trace hub (newer ++ older)) {first second : RoomState}
    {old new : ParticipantState} (was : (sharedAfter hub older).room = some first)
    (known : first.participants.get? connId = some old)
    (found : (sharedAfter hub (newer ++ older)).room = some second)
    (stays : second.participants.get? connId = some new) : Rebinds old new := by
  refine Trace.staying (fun _ _ current => Rebinds old current) ?_ ?_ trace was (by simp [known])
    found stays
  · intro room participant same present
    rw [was] at same
    cases same
    rw [known] at present
    cases present
    exact .refl old
  · intro rest event room after middle last past lawful same before present left remains rebinds
    have keyed := past.keyed
    unfold roomAfter at keyed
    rw [← same] at keyed
    refine rebinds.trans ((lawful.rebinds (same ▸ past.separated) keyed left remains).2 middle ?_)
    rw [HubRoom.opened_of_some before]
    exact present

/-- A key update says what its sender has when it is built or applied. -/
theorem Event.announces_bound {event : Event} {update : GroupKeyUpdateFrame}
    (announces : event.announces hub = some update) :
    ∃ after participant, (event.after hub).room = some after ∧
      after.participants.get? event.connId = some participant ∧
      participant.x25519Epoch = update.epoch ∧
      participant.x25519PubkeyHex = some update.x25519PubkeyHex := by
  obtain ⟨actor, task, op, state⟩ := event
  obtain ⟨room, found, announces⟩ := Option.bind_eq_some_iff.mp announces
  dsimp only at found announces
  cases op with
  | anonHello frame nowMs rosterAtMs =>
      dsimp only at announces
      have left : (Event.after hub ⟨actor, task, .anonHello frame nowMs rosterAtMs, state⟩).room =
          some (anonHelloSection hub room actor frame nowMs rosterAtMs).1 :=
        Option.map_eq_some_iff.mpr ⟨room, found, rfl⟩
      have step := anonHelloSection_cases hub room actor frame nowMs rosterAtMs
      revert announces left step
      generalize anonHelloSection hub room actor frame nowMs rosterAtMs = result
      intro announces left step
      cases step with
      | refused _ _ refused =>
          split at announces
          · next accepted => exact absurd accepted (refused _ _ _)
          all_goals cases announces
      | @announced participant joined entered known applied participants _ =>
          cases announces
          refine ⟨_, joined, left, ?_, rfl, ?_⟩
          · change entered.participants.get? actor = some joined
            rw [participants, HashMap.get?_modify, if_pos rfl, known]
            rfl
          · unfold applyAnonHelloState at applied
            dsimp only at applied
            split at applied
            · cases applied
            · cases applied
              rfl
  | groupKeyUpdate frame =>
      dsimp only at announces
      rcases groupKeyUpdateSection_cases room actor frame with ⟨_, refused⟩ |
        ⟨participant, known, _, _, _, _, applied⟩
      · split at announces
        · next relays => exact absurd relays refused
        all_goals cases announces
      · rw [applied] at announces
        cases announces
        refine ⟨_, { participant with
            x25519PubkeyHex := some update.x25519PubkeyHex
            x25519Epoch := update.epoch },
          Option.map_eq_some_iff.mpr ⟨room, found, rfl⟩, ?_, rfl, rfl⟩
        change (groupKeyUpdateSection room actor update).1.participants.get? actor = _
        rw [applied]
        simp [RoomState.updateParticipant, known]
  | _ => cases announces

/-- The updates of one connection with one epoch are about one key. -/
theorem Trace.announced (trace : Trace hub history) {first second : Event}
    {told tells : GroupKeyUpdateFrame} (happened : first ∈ history)
    (happenedToo : second ∈ history) (same : first.connId = second.connId)
    (announces : first.announces hub = some told) (announcesToo : second.announces hub = some tells)
    (epoch : told.epoch = tells.epoch) : told.x25519PubkeyHex = tells.x25519PubkeyHex := by
  have ordered : ∀ {newer middle older : List Event} {later earlier : Event}
      {latest oldest : GroupKeyUpdateFrame},
      Trace hub (newer ++ later :: (middle ++ earlier :: older)) → later.connId = earlier.connId →
      later.announces hub = some latest → earlier.announces hub = some oldest →
      latest.epoch = oldest.epoch → latest.x25519PubkeyHex = oldest.x25519PubkeyHex := by
    intro newer middle older later earlier latest oldest trace own builds built grown
    obtain ⟨first, old, was, known, oldEpoch, oldKey⟩ := Event.announces_bound built
    obtain ⟨second, new, found, stays, newEpoch, newKey⟩ := Event.announces_bound builds
    have within := trace.suffix newer
    rw [← List.cons_append] at within
    have rebinds : Rebinds old new := within.rebinds was (own ▸ known) found stays
    have key := rebinds.key_eq (newEpoch.trans (grown.trans oldEpoch.symm))
    rw [newKey, oldKey] at key
    exact Option.some.inj key
  obtain ⟨newer, older, split⟩ := List.append_of_mem happened
  obtain ⟨newerToo, olderToo, splitToo⟩ := List.append_of_mem happenedToo
  rcases List.append_eq_append_iff.mp (split.symm.trans splitToo) with
    ⟨between, rfl, rest⟩ | ⟨between, rfl, rest⟩
  · cases between with
    | nil =>
        obtain ⟨rfl, _⟩ := List.cons.inj rest
        rw [announces] at announcesToo
        cases announcesToo
        rfl
    | cons head middle =>
        obtain ⟨rfl, rfl⟩ := List.cons.inj rest
        exact ordered (split ▸ trace) same announces announcesToo epoch
  · cases between with
    | nil =>
        obtain ⟨rfl, _⟩ := List.cons.inj rest
        rw [announces] at announcesToo
        cases announcesToo
        rfl
    | cons head middle =>
        obtain ⟨rfl, rfl⟩ := List.cons.inj rest
        exact (ordered (splitToo ▸ trace) same.symm announcesToo announces epoch.symm).symm

/-- A key update that was built or applied has a positive epoch. -/
theorem Trace.announces_positive (trace : Trace hub history) {event : Event}
    {update : GroupKeyUpdateFrame} (happened : event ∈ history)
    (announces : event.announces hub = some update) : update.epoch ≠ 0 := by
  obtain ⟨newer, older, rfl⟩ := List.append_of_mem happened
  obtain ⟨after, participant, left, found, epoch, key⟩ := Event.announces_bound announces
  have keyed : KeyedRoom ((event.after hub).opened hub) := (trace.suffix newer).keyed
  rw [HubRoom.opened_of_some left] at keyed
  cases keyed _ participant found with
  | bare _ _ none => rw [key] at none; cases none
  | bound _ _ positive => omega

/-- A keyed frame that a connection fans out is sourced. -/
theorem Run.sourced (run : Run hub history system) {newer older : List Event} {event : Event}
    {frame : KaigiFrame} (split : history = newer ++ event :: older)
    (fans : event.op = .fanout frame) :
    Sourced hub event.connId (own event.connId .connection older) (.fanout frame)
      event.before := by
  have lawful := (split ▸ run.trace.1).lawful.2.2
  rcases ((keyProtocol hub event.connId).kept run).admitted newer event older split rfl
    (lawful.fanout fans) with ⟨_, connects⟩ | admitted
  · rw [fans] at connects
    cases connects
  · rw [← fans]
    exact admitted

end Runs

/-! ### Sealed frames -/

section Sealed

variable {room : RoomState} {connId : ConnId}

theorem validateEncryptedRecipientPayload_fresh {payload : EncryptedRecipientPayload}
    {recipients : List String}
    (passed : validateEncryptedRecipientPayload payload recipients = none) :
    payload.recipientHandle ∉ recipients := by
  unfold validateEncryptedRecipientPayload at passed
  simp only [ite_eq_iff, reduceCtorEq, and_false, false_or, and_true] at passed
  obtain ⟨_, _, _, _, _, _, _, _, unseen⟩ := passed
  simpa using unseen

/-- The payloads are for different recipients. -/
theorem validateEncryptedPayloads_nodup {payloads : List EncryptedRecipientPayload}
    {recipients : List String} (passed : validateEncryptedPayloads payloads recipients = none) :
    (payloads.map (·.recipientHandle)).Nodup ∧
      ∀ payload ∈ payloads, payload.recipientHandle ∉ recipients := by
  induction payloads generalizing recipients with
  | nil => exact ⟨List.nodup_nil, nofun⟩
  | cons payload rest ih =>
      obtain ⟨head, tail⟩ := Option.or_eq_none_iff.mp passed
      obtain ⟨distinct, unseen⟩ := ih tail
      refine ⟨?_, fun other member => ?_⟩
      · rw [List.map_cons, List.nodup_cons]
        refine ⟨fun again => ?_, distinct⟩
        obtain ⟨other, member, same⟩ := List.mem_map.mp again
        exact unseen other member (by simp [same])
      · rcases List.mem_cons.mp member with rfl | member
        · exact validateEncryptedRecipientPayload_fresh head
        · exact fun among => unseen other member (List.mem_cons_of_mem _ among)

theorem validateEncryptedControlFrame_payloads {enc : EncryptedControlFrame}
    (passed : validateEncryptedControlFrame enc = none) :
    validateEncryptedPayloads enc.payloads [] = none := by
  unfold validateEncryptedControlFrame at passed
  split at passed
  · cases passed
  · have passed := (Option.or_eq_none_iff.mp passed).2
    split at passed
    · cases passed
    · split at passed
      · cases passed
      · exact passed

theorem validateEncryptedControlRoomRecipients_present {enc : EncryptedControlFrame}
    (passed : validateEncryptedControlRoomRecipients enc room = none)
    (payload : EncryptedRecipientPayload) (member : payload ∈ enc.payloads) :
    ∃ other participant, room.participants.get? other = some participant ∧
      participant.isAnonymous = true ∧
      participant.participantHandle = some payload.recipientHandle := by
  unfold validateEncryptedControlRoomRecipients at passed
  have listed := List.find?_eq_none.mp (Option.map_eq_none_iff.mp passed) payload member
  simp only [Bool.not_eq_true', Bool.not_eq_false, List.contains_iff_mem, List.mem_filterMap,
    List.mem_filter] at listed
  obtain ⟨participant, ⟨among, anonymous⟩, named⟩ := listed
  obtain ⟨other, found⟩ := HashMap.mem_values.mp among
  exact ⟨other, participant, found, anonymous, named⟩

/-- What the check of a sealed control frame has found. -/
structure SealedFor (room : RoomState) (connId : ConnId) (enc : EncryptedControlFrame) : Prop where
  sender : ∃ participant, room.participants.get? connId = some participant ∧
    participant.isAnonymous = true ∧ participant.participantHandle = some enc.senderHandle ∧
      participant.x25519Epoch = enc.epoch
  distinct : (enc.payloads.map (·.recipientHandle)).Nodup
  recipients : ∀ payload ∈ enc.payloads, ∃ other participant,
    room.participants.get? other = some participant ∧ participant.isAnonymous = true ∧
      participant.participantHandle = some payload.recipientHandle

theorem encryptedControlOutcome_relay {enc : EncryptedControlFrame}
    (relays : encryptedControlOutcome room connId enc = .relay) : SealedFor room connId enc := by
  unfold encryptedControlOutcome at relays
  split at relays
  · cases relays
  · split at relays
    · cases relays
    · next wellFormed =>
        split at relays
        · cases relays
        · next participant found =>
            split at relays
            · cases relays
            · next passed =>
                obtain ⟨sender, passed⟩ := Option.or_eq_none_iff.mp passed
                obtain ⟨epoch, roster⟩ := Option.or_eq_none_iff.mp passed
                obtain ⟨joined, anonymous, named⟩ := validateAnonSender_passed sender
                refine ⟨⟨participant, found, ?_, named, ?_⟩, ?_, fun payload member => ?_⟩
                · simp [ParticipantState.isAnonymous, joined, anonymous]
                · unfold validateEncryptedControlEpoch at epoch
                  split at epoch
                  · cases epoch
                  · split at epoch
                    · cases epoch
                    · next same => exact (not_not.mp same).symm
                · exact (validateEncryptedPayloads_nodup
                    (validateEncryptedControlFrame_payloads wellFormed)).1
                · exact validateEncryptedControlRoomRecipients_present roster payload member

end Sealed

/-- How the keys of one connection are bound in a history. -/
structure KeysBound (hub : HubState) (history : List Event) (connId : ConnId) : Prop where
  rebinds : ∀ newer middle older first second old new, history = newer ++ (middle ++ older) →
    (sharedAfter hub older).room = some first → first.participants.get? connId = some old →
    (sharedAfter hub (middle ++ older)).room = some second →
    second.participants.get? connId = some new → Rebinds old new
  updates : ∀ first ∈ history, ∀ second ∈ history, first.connId = connId →
    second.connId = connId → ∀ told tells, first.op = .fanout (.groupKeyUpdate told) →
      second.op = .fanout (.groupKeyUpdate tells) →
        told.participantHandle = tells.participantHandle → told.epoch = tells.epoch →
          told.x25519PubkeyHex = tells.x25519PubkeyHex
  sealed : ∀ newer event older enc, history = newer ++ event :: older → event.connId = connId →
    event.op = .fanout (.encryptedControl enc) →
      ∃ checked rest room, own connId .connection older = checked :: rest ∧ checked.op = .read ∧
        checked.before.room = some room ∧ SealedFor room connId enc

/-- In every run the keys of every connection are bound to their epochs. -/
theorem keys_bound {hub : HubState} {history : List Event} {system : System}
    (run : Run hub history system) (connId : ConnId) : KeysBound hub history connId where
  rebinds := by
    rintro newer middle older first second old new rfl was known found stays
    exact (run.trace.1.suffix newer).rebinds was known found stays
  updates := by
    intro first happened second happenedToo own ownToo told tells fans fansToo _ epoch
    -- Either update takes a key back, or it was built or applied.
    have origin : ∀ event ∈ history, event.connId = connId → ∀ update : GroupKeyUpdateFrame,
        event.op = .fanout (.groupKeyUpdate update) →
        (update.epoch = 0 ∧ update.x25519PubkeyHex = "") ∨ ∃ source ∈ history,
          source.connId = connId ∧ source.announces hub = some update := by
      rintro event member rfl update fans
      obtain ⟨newer, older, split⟩ := List.append_of_mem member
      rcases run.sourced split fans with notice | ⟨source, past, announces⟩
      · exact .inl notice
      · obtain ⟨before, same, _⟩ := mem_own.mp past
        exact .inr ⟨source, by simp [split, before], same, announces⟩
    rcases origin first happened own told fans with ⟨zero, none⟩ | ⟨source, member, same, announces⟩
    · rcases origin second happenedToo ownToo tells fansToo with
        ⟨_, noneToo⟩ | ⟨sourceToo, memberToo, _, announcesToo⟩
      · rw [none, noneToo]
      · exact absurd (epoch.symm.trans zero) (run.trace.1.announces_positive memberToo announcesToo)
    · rcases origin second happenedToo ownToo tells fansToo with
        ⟨zeroToo, _⟩ | ⟨sourceToo, memberToo, sameToo, announcesToo⟩
      · exact absurd (epoch.trans zeroToo) (run.trace.1.announces_positive member announces)
      · exact run.trace.1.announced member memberToo (same.trans sameToo.symm) announces
          announcesToo epoch
  sealed := by
    rintro newer event older enc split rfl fans
    obtain ⟨checked, rest, room, past, looks, found, relays⟩ := run.sourced split fans
    exact ⟨checked, rest, room, past, looks, found, encryptedControlOutcome_relay relays⟩

def foxRekeys : KaigiFrame :=
  .groupKeyUpdate {
    sentAtMs := 1
    participantHandle := "fox"
    x25519PubkeyHex := "0000000000000000000000000000000000000000000000000000000000000000"
    epoch := 2 }

def foxSeals : KaigiFrame :=
  .encryptedControl {
    sentAtMs := 1
    senderHandle := "fox"
    epoch := 2
    kind := .chat
    payloads := [{
      recipientHandle := "owl"
      nonceHex := "000000000000000000000000000000000000000000000000"
      ciphertextHex := "00000000000000000000000000000000" }] }

def sealedHub : HubState :=
  scriptedHub [anonHelloAs "fox", anonHelloAs "owl", foxRekeys, foxSeals]

/-- The fox takes another key and seals a message for the owl. -/
def sealedScript : List Move :=
  handlesScript ++ sendsFrame 1 2 3 7 ++ sendsFrame 1 3 4 7

def Operation.relaysEncrypted : Operation → Bool
  | .fanout (.encryptedControl _) => true
  | _ => false

theorem keys_bound_script :
    ∃ history system, Run sealedHub history system ∧
      (∃ event ∈ history, ∃ enc, event.op = .fanout (.encryptedControl enc)) ∧
      ∀ connId, KeysBound sealedHub history connId := by
  obtain ⟨history, system, run, checks⟩ := Run.of_played sealedHub sealedScript
    (fun history _ => history.any fun event => event.op.relaysEncrypted) (by decide +kernel)
  obtain ⟨event, member, fans⟩ := List.any_eq_true.mp checks
  refine ⟨history, system, run, ⟨event, member, ?_⟩, keys_bound run⟩
  unfold Operation.relaysEncrypted at fans
  split at fans
  · next enc op => exact ⟨enc, op⟩
  · cases fans

end Kaigi.Hub
