import Kaigi.Hub.AnonymousKeys
import Kaigi.Hub.Scripts
import Kaigi.Replication.Mirror

/-!
# Convergence of anonymous rosters

The peers of a client mirror the keys in its room, as long as no roster and no key
update is put into a queue after the room has moved on.
-/

set_option autoImplicit false

namespace Kaigi.Hub

open Collections Wire Interleaving Authority Client Replication

/-- The frame that the event puts into the queue of the connection. -/
def Event.enqueues (event : Event) (connId : ConnId) : Option KaigiFrame :=
  match event.op with
  | .trySend target (.binary frame) =>
      if target = connId ∧ (event.before.channels connId).accepts then some frame else none
  | _ => none

/-- The peers of a client when it has read what was put into its queue. Its own key
was `keyAt` then; a new key of its own is entered at once. -/
def peersAfter (connId : ConnId) (handle : String) (keyAt : List Event → PublicKey) :
    List Event → Peers
  | [] => initialPeers ⟨handle, keyAt []⟩
  | event :: earlier =>
      let own : AnonLocalState := ⟨handle, keyAt (event :: earlier)⟩
      let peers := peersAfter connId handle keyAt earlier
      let peers := if own.publicKey = keyAt earlier then peers else rekeyed own peers
      match event.enqueues connId with
      | some frame => readFrame own peers frame
      | none => peers

/-- The frame is true of the room. -/
def RoomState.confirms (room : RoomState) : KaigiFrame → Bool
  | .anonRoster roster =>
      (roster.participants.all fun entry =>
        room.keyOf entry.participantHandle == some entry.x25519PubkeyHex) &&
      room.participants.values.all fun participant =>
        participant.participantHandle.all fun handle =>
          roster.participants.any (·.participantHandle == handle)
  | .groupKeyUpdate update =>
      room.keyOf update.participantHandle ==
        if update.x25519PubkeyHex = "" then none else some update.x25519PubkeyHex
  | _ => true

/-- Keys that enter the room are keys for the clients, and what members of the room are
sent about keys is true when it is sent. -/
def Event.keepsRosters (hub : HubState) (event : Event) : Bool :=
  ((event.op.binds hub event.connId (event.before.opened hub)).all fun (_, key) =>
    (parseX25519PubkeyHex key).isSome) &&
  match event.op with
  | .trySend target (.binary frame) =>
      !event.before.connections.contains target || (event.before.opened hub).confirms frame
  | _ => true

/-- As long as a connection task owes a key to somebody, its steps let its handler go on. -/
def KeysSpared (hub : HubState) (history : List Event) : Prop :=
  ∀ connId, Unstopped (keyDuty hub).Settled (Event.SparesKeys hub)
    (own connId .connection history)

/-- The peers are exactly the handles of the joined participants, with their keys. -/
structure RosterConverged (peers : Peers) (room : RoomState) : Prop where
  known : ∀ connId participant, room.participants.get? connId = some participant →
    participant.helloSeen = true →
      ∃ handle key publicKey, participant.participantHandle = some handle ∧
        participant.x25519PubkeyHex = some key ∧ parseX25519PubkeyHex key = some publicKey ∧
          peers.get? handle = some publicKey
  only : ∀ handle publicKey, peers.get? handle = some publicKey →
    ∃ connId participant, room.participants.get? connId = some participant ∧
      participant.helloSeen = true ∧ participant.participantHandle = some handle

/-- Since the room knows the present key of the handle, its client has had that key. -/
def KeySettled (hub : HubState) (history : List Event) (handle : String)
    (keyAt : List Event → PublicKey) : Prop :=
  ∀ newer older, history = newer ++ older →
    (∀ left right, newer = left ++ right →
      (roomAfter hub (right ++ older)).keyOf handle = (roomAfter hub history).keyOf handle) →
    ((roomAfter hub history).keyOf handle).bind parseX25519PubkeyHex = some (keyAt older)

theorem Event.enqueues_eq_some {event : Event} {connId : ConnId} {frame : KaigiFrame} :
    event.enqueues connId = some frame ↔
      event.op = .trySend connId (.binary frame) ∧
        (event.before.channels connId).accepts = true := by
  unfold Event.enqueues
  split
  · next target sent op =>
      rw [op]
      split
      · next accepted =>
          obtain ⟨rfl, accepts⟩ := accepted
          simp [accepts]
      · next refused =>
          simp only [reduceCtorEq, false_iff, not_and, Operation.trySend.injEq]
          rintro ⟨same, _⟩ accepts
          exact refused ⟨same, accepts⟩
  · next other =>
      simp only [reduceCtorEq, false_iff, not_and]
      exact fun sends => absurd sends (other connId frame)

theorem RoomState.confirms_true {room : RoomState} {frame : KaigiFrame}
    (confirms : room.confirms frame = true) : TrueOf room.keyOf frame := by
  cases frame with
  | anonRoster roster =>
      simp only [RoomState.confirms, Bool.and_eq_true, List.all_eq_true, beq_iff_eq,
        List.any_eq_true, Option.all_eq_true] at confirms
      refine ⟨confirms.1, fun handle bound => ?_⟩
      unfold RoomState.keyOf at bound
      cases first : room.participants.values.find? (·.participantHandle == some handle) with
      | none => simp [first] at bound
      | some participant =>
          have named : participant.participantHandle = some handle := by
            simpa using List.find?_some first
          exact confirms.2 participant (List.mem_of_find?_eq_some first) handle named
  | groupKeyUpdate update => simpa [RoomState.confirms, TrueOf] using confirms
  | _ => trivial

section Runs

variable {hub : HubState} {history : List Event} {system : System} {connId : ConnId}
  {handle : String} {keyAt : List Event → PublicKey}

/-- The client as a follower of the key of one peer. -/
def peerMirror (hub : HubState) (connId : ConnId) (handle : String)
    (keyAt : List Event → PublicKey) (peer : String) : Mirror Event (Option PublicKey) where
  truth history := ((roomAfter hub history).keyOf peer).bind parseX25519PubkeyHex
  held history := (peersAfter connId handle keyAt history).get? peer
  hears event earlier :=
    ((event.enqueues connId).bind (reportOf ⟨handle, keyAt (event :: earlier)⟩ peer)).or <|
      if keyAt (event :: earlier) ≠ keyAt earlier ∧ peer = handle then
        some (some (keyAt (event :: earlier)))
      else none
  held_cons event earlier := by
    have rekeys : (if keyAt (event :: earlier) = keyAt earlier
        then peersAfter connId handle keyAt earlier
        else rekeyed ⟨handle, keyAt (event :: earlier)⟩
          (peersAfter connId handle keyAt earlier)).get? peer =
        (if keyAt (event :: earlier) ≠ keyAt earlier ∧ peer = handle then
          some (some (keyAt (event :: earlier))) else none).getD
            ((peersAfter connId handle keyAt earlier).get? peer) := by
      by_cases same : keyAt (event :: earlier) = keyAt earlier
      · simp [same]
      · by_cases named : peer = handle <;> simp [same, named, rekeyed]
    conv_lhs => unfold peersAfter
    dsimp only
    cases event.enqueues connId with
    | none => exact rekeys
    | some frame =>
        dsimp only
        rw [get?_readFrame, rekeys, Option.bind_some]
        cases reportOf ⟨handle, keyAt (event :: earlier)⟩ peer frame <;> rfl

/-- Operations on keys are operations of connection tasks. -/
theorem Lawful.movesKeys {earlier : List Event} {event : Event}
    (lawful : Lawful hub earlier event) (moves : event.op.movesKeys = true) :
    event.task = .connection := by
  refine lawful.ownTask ?_
  cases op : event.op with
  | anonHello | groupKeyUpdate | disconnect => rfl
  | _ => rw [op] at moves; cases moves

/-- Whoever has a handle once said an anonymous hello, and has been told all keys since. -/
theorem Trace.greeted (trace : Trace hub history) {participant : ParticipantState}
    (found : (roomAfter hub history).participants.get? connId = some participant)
    (anonymous : participant.anonymousMode = true) :
    ∃ newer hello older, history = newer ++ hello :: older ∧ hello.connId = connId ∧
      (hello.after hub).hasJoined connId = true ∧
        ∀ peer, (keyDuty hub).calls hello connId peer := by
  have told := Trace.room (fun past room => ∀ connId participant,
    room.participants.get? connId = some participant → participant.anonymousMode = true →
      ∃ newer hello older, past = newer ++ hello :: older ∧ hello.connId = connId ∧
        (hello.after hub).hasJoined connId = true ∧
          ∀ peer, (keyDuty hub).calls hello connId peer) ?_ ?_ trace
  · exact told connId participant found anonymous
  · intro _ connId participant found
    simp [emptyRoom] at found
  · intro earlier event after past lawful same ih left connId new found anonymous
    have before : ∀ old, (event.before.opened hub).participants.get? connId = some old →
        old.anonymousMode = true → ∃ newer hello older, event :: earlier =
          newer ++ hello :: older ∧ hello.connId = connId ∧
            (hello.after hub).hasJoined connId = true ∧
              ∀ peer, (keyDuty hub).calls hello connId peer := by
      intro old was hidden
      obtain ⟨newer, hello, older, rfl, rest⟩ := ih connId old was hidden
      exact ⟨event :: newer, hello, older, rfl, rest⟩
    cases lawful.introduced left found with
    | @before old was keeps => exact before old was (keeps.anonymous.symm.trans anonymous)
    | transparent transparent => rw [transparent] at anonymous; cases anonymous
    | @bound handle key old own binds was _ _ joined _ _ _ =>
        subst own
        obtain ⟨room, present, opened⟩ := HubRoom.opened_found was
        cases op : event.op with
        | anonHello frame nowMs rosterAtMs =>
            refine ⟨[], event, earlier, rfl, rfl, HubRoom.hasJoined_iff.mpr ⟨after, left, ?_⟩,
              fun peer => ⟨room, present, .inl ⟨handle, key, opened ▸ binds, .inl ⟨?_, rfl⟩⟩⟩⟩
            · simp [RoomState.helloSeen, found, joined]
            · rw [op]
              rfl
        | groupKeyUpdate update =>
            rw [op, opened] at binds
            rcases groupKeyUpdateSection_cases room event.connId update with ⟨_, refused⟩ |
              ⟨participant, known, _, hidden, _⟩
            · simp only [Operation.binds] at binds
              split at binds
              · next relays => exact absurd relays refused
              all_goals cases binds
            · exact before participant (opened ▸ known) hidden
        | _ =>
            rw [op] at binds
            cases binds

theorem Event.keepsRosters_binds {event : Event} (keeps : event.keepsRosters hub = true) :
    event.BindsUsable hub fun key => (parseX25519PubkeyHex key).isSome = true := by
  intro handle key binds
  have usable := (Bool.and_eq_true_iff.mp keeps).1
  rw [binds] at usable
  exact usable

theorem Event.keepsRosters_sends {event : Event} {room : RoomState} {frame : KaigiFrame}
    (keeps : event.keepsRosters hub = true) (sends : event.op = .trySend connId (.binary frame))
    (found : event.before.room = some room) (member : connId ∈ room.participants.keys) :
    TrueOf room.keyOf frame := by
  have holds := (Bool.and_eq_true_iff.mp keeps).2
  rw [sends] at holds
  simp only [HubRoom.connections_of_some found, HubRoom.opened_of_some found, Bool.or_eq_true,
    Bool.not_eq_true', List.contains_eq_mem, decide_eq_false_iff_not] at holds
  exact RoomState.confirms_true (holds.resolve_left (not_not.mpr member))

/-- The key of a peer does not change while the client is not told about it. -/
theorem Trace.keyOf_still {rest : List Event} {event : Event} {peer : String}
    {usable : String → Prop} (trace : Trace hub (event :: rest))
    (binds : ∀ current ∈ event :: rest, current.BindsUsable hub usable)
    (before : (sharedAfter hub rest).hasJoined connId = true)
    (after : (sharedAfter hub (event :: rest)).hasJoined connId = true)
    (uncalled : ¬ (keyDuty hub).calls event connId peer) :
    (roomAfter hub (event :: rest)).keyOf peer = (roomAfter hub rest).keyOf peer := by
  have usableAfter := trace.credentialed binds
  have uniqueAfter := trace.uniqueHandles
  obtain ⟨room, found, _⟩ := HubRoom.hasJoined_iff.mp before
  obtain ⟨left, remains, _⟩ := HubRoom.hasJoined_iff.mp after
  cases trace with
  | step past same lawful =>
      have usableBefore := past.credentialed fun current member =>
        binds current (List.mem_cons_of_mem _ member)
      have uniqueBefore := past.uniqueHandles
      rw [roomAfter_of_some remains] at usableAfter uniqueAfter ⊢
      rw [roomAfter_of_some found] at usableBefore uniqueBefore ⊢
      exact lawful.keyOf (same ▸ past.separated) (same ▸ found) remains usableBefore uniqueBefore
        usableAfter uniqueAfter uncalled

/-- The last call about a peer. The client has joined ever since. -/
structure LastCall (hub : HubState) (connId : ConnId) (peer : String) (newer : List Event)
    (call : Event) (older : List Event) : Prop where
  calls : (keyDuty hub).calls call connId peer
  uncalled : ∀ event ∈ newer, ¬ (keyDuty hub).calls event connId peer
  joined : ∀ left right, newer = left ++ right →
    (sharedAfter hub (right ++ call :: older)).hasJoined connId = true

/-- It comes no earlier than the hello of the client. -/
theorem Trace.lastCall (trace : Trace hub history) (peer : String)
    {participant : ParticipantState}
    (found : (roomAfter hub history).participants.get? connId = some participant)
    (anonymous : participant.anonymousMode = true)
    (present : connId ∈ (sharedAfter hub history).connections) :
    ∃ newer call older, history = newer ++ call :: older ∧
      LastCall hub connId peer newer call older := by
  obtain ⟨newest, hello, oldest, greeted, _, entered, everything⟩ :=
    trace.greeted found anonymous
  have happened : hello ∈ history := by simp [greeted]
  obtain ⟨newer, call, older, split, called, uncalled⟩ := exists_last
    (fun event => (keyDuty hub).calls event connId peer) happened (everything peer)
  have since : ∃ middle, call :: older = middle ++ hello :: oldest := by
    rcases List.append_eq_append_iff.mp (split.symm.trans greeted) with
      ⟨between, _, same⟩ | ⟨between, later, same⟩
    · exact ⟨between, same⟩
    · cases between with
      | nil => exact ⟨[], same.symm⟩
      | cons first rest =>
          obtain ⟨rfl, _⟩ := List.cons.inj same
          exact absurd (everything peer) (uncalled hello (by simp [later]))
  obtain ⟨middle, since⟩ := since
  refine ⟨newer, call, older, split, called, uncalled, fun left right within => ?_⟩
  have regrouped : history = left ++ ((right ++ middle) ++ hello :: oldest) := by
    rw [split, within, since]
    simp
  rw [regrouped] at trace present
  rw [since, ← List.append_assoc]
  exact trace.joined_throughout entered present

namespace LastCall

variable {peer : String} {newer older left right : List Event} {call event answer : Event}
  {frame : KaigiFrame}

theorem suffix (within : newer = left ++ right) (trace : Trace hub (newer ++ call :: older)) :
    Trace hub (right ++ call :: older) := by
  rw [within, List.append_assoc] at trace
  exact trace.suffix left

theorem mem_suffix (within : newer = left ++ right) (member : event ∈ right ++ call :: older) :
    event ∈ newer ++ call :: older := by
  rw [within, List.append_assoc]
  exact List.mem_append_right _ member

/-- Since then the key of the peer has not changed. -/
theorem still (last : LastCall hub connId peer newer call older)
    (trace : Trace hub (newer ++ call :: older))
    (keeps : ∀ event ∈ newer ++ call :: older, event.keepsRosters hub = true) :
    Unchanged (fun past => (roomAfter hub past).keyOf peer) newer (call :: older) := by
  intro left event right within
  refine Trace.keyOf_still (suffix within trace)
    (fun current member => Event.keepsRosters_binds (keeps current (mem_suffix within member)))
    (last.joined (left ++ [event]) right (by simp [within]))
    (last.joined left (event :: right) within) (last.uncalled event (by simp [within]))

/-- What the client has been sent since then was true. -/
theorem confirmed (last : LastCall hub connId peer newer call older)
    (trace : Trace hub (newer ++ call :: older))
    (keeps : ∀ event ∈ newer ++ call :: older, event.keepsRosters hub = true)
    (within : newer = left ++ event :: right) (enqueued : event.enqueues connId = some frame) :
    TrueOf (roomAfter hub (right ++ call :: older)).keyOf frame := by
  have now := suffix within trace
  obtain ⟨current, known, entered⟩ :=
    HubRoom.hasJoined_iff.mp (last.joined (left ++ [event]) right (by simp [within]))
  cases now with
  | step _ same _ =>
      rw [roomAfter_of_some known]
      exact Event.keepsRosters_sends (keeps event (mem_suffix within List.mem_cons_self))
        (Event.enqueues_eq_some.mp enqueued).1 (same ▸ known) (joined_mem_keys entered)

theorem parses (trace : Trace hub (newer ++ call :: older))
    (keeps : ∀ event ∈ newer ++ call :: older, event.keepsRosters hub = true)
    (within : newer = left ++ right) {key : String}
    (bound : (roomAfter hub (right ++ call :: older)).keyOf peer = some key) :
    (parseX25519PubkeyHex key).isSome = true :=
  ((suffix within trace).credentialed fun event member =>
    Event.keepsRosters_binds (keeps event (mem_suffix within member))).keyOf bound

/-- The own key of the client has been the one that the room knows. -/
theorem ownKey (last : LastCall hub connId handle newer call older)
    (trace : Trace hub (newer ++ call :: older))
    (keeps : ∀ event ∈ newer ++ call :: older, event.keepsRosters hub = true)
    (settled : KeySettled hub (newer ++ call :: older) handle keyAt)
    (within : newer = left ++ right) :
    (peerMirror hub connId handle keyAt handle).truth (newer ++ call :: older) =
      some (keyAt (right ++ call :: older)) := by
  refine settled left (right ++ call :: older) (by simp [within]) fun first rest same => ?_
  have whole : newer = first ++ (rest ++ right) := by simp [within, same]
  rw [← (last.still trace keeps).throughout whole, List.append_assoc]

/-- What the client has heard since then was true when it heard it, or is now. -/
theorem truthful (last : LastCall hub connId peer newer call older)
    (trace : Trace hub (newer ++ call :: older))
    (keeps : ∀ event ∈ newer ++ call :: older, event.keepsRosters hub = true)
    (settled : KeySettled hub (newer ++ call :: older) handle keyAt) :
    (peerMirror hub connId handle keyAt peer).Truthful newer (call :: older) := by
  intro left event right value within heard
  rcases Option.or_eq_some_iff.mp heard with reported | ⟨_, turned⟩
  · obtain ⟨frame, enqueued, reported⟩ := Option.bind_eq_some_iff.mp reported
    by_cases own : (∃ roster, frame = .anonRoster roster) ∧ peer = handle
    · obtain ⟨⟨roster, rfl⟩, rfl⟩ := own
      refine .inr ?_
      rw [last.ownKey trace keeps settled within]
      simpa [reportOf, readAnonRoster] using reported.symm
    · have known : newer = (left ++ [event]) ++ right := by simp [within]
      exact .inl (reportOf_true (fun _ bound => parses trace keeps known bound)
        (last.confirmed trace keeps within enqueued) reported fun roster same =>
          own ⟨roster, same⟩)
  · -- The client has turned to its present key before.
    split at turned
    · next turns =>
        obtain ⟨changed, rfl⟩ := turns
        have before : newer = (left ++ [event]) ++ right := by simp [within]
        have now := last.ownKey trace keeps settled within
        rw [last.ownKey trace keeps settled before] at now
        exact absurd (Option.some.inj now).symm changed
    · cases turned

/-- Once the call has been answered, the client holds the key of the peer. -/
theorem agrees (last : LastCall hub connId peer newer call older)
    (trace : Trace hub (newer ++ call :: older))
    (keeps : ∀ event ∈ newer ++ call :: older, event.keepsRosters hub = true)
    (settled : KeySettled hub (newer ++ call :: older) handle keyAt)
    (answered : answer ∈ newer) (tells : (keyDuty hub).Tells answer connId peer)
    (accepts : (answer.before.channels connId).accepts = true) :
    (peersAfter connId handle keyAt (newer ++ call :: older)).get? peer =
      ((roomAfter hub (newer ++ call :: older)).keyOf peer).bind parseX25519PubkeyHex := by
  obtain ⟨frame, sends, speaks⟩ := tells
  obtain ⟨left, right, within⟩ := List.append_of_mem answered
  have enqueued : answer.enqueues connId = some frame :=
    Event.enqueues_eq_some.mpr ⟨sends, accepts⟩
  have about : (∃ roster, frame = .anonRoster roster) ∨
      ∃ update, frame = .groupKeyUpdate update ∧ update.participantHandle = peer := by
    cases frame with
    | anonRoster roster => exact .inl ⟨roster, rfl⟩
    | groupKeyUpdate update => exact .inr ⟨update, rfl, Eq.symm speaks⟩
    | _ => exact speaks.elim
  have heard : ((peerMirror hub connId handle keyAt peer).hears answer
      (right ++ call :: older)).isSome = true := by
    have known : newer = (left ++ [answer]) ++ right := by simp [within]
    change (Option.or _ _).isSome = true
    rw [enqueued, Option.bind_some, Option.isSome_or, isSome_reportOf
      (fun _ bound => parses trace keeps known bound)
        (last.confirmed trace keeps within enqueued) about]
    rfl
  exact Mirror.agrees ((last.still trace keeps).map (·.bind parseX25519PubkeyHex))
    (last.truthful trace keeps settled) ⟨left, answer, right, within, heard⟩

end LastCall

/-- Once the system is idle, a joined client holds the current key of every peer. -/
theorem Run.peers_agree (run : Run hub history system) (idle : system.Idle)
    (spared : KeysSpared hub history) (keeps : ∀ event ∈ history, event.keepsRosters hub = true)
    {room : RoomState}
    (found : system.shared.room = some room) {participant : ParticipantState}
    (present : room.participants.get? connId = some participant)
    (hidden : participant.anonymousMode = true)
    (_named : participant.participantHandle = some handle)
    (delivered : ∀ event ∈ history, ∀ frame, event.op = .trySend connId (.binary frame) →
      (event.before.channels connId).accepts = true)
    (settled : KeySettled hub history handle keyAt) (peer : String) :
    (peersAfter connId handle keyAt history).get? peer =
      (room.keyOf peer).bind parseX25519PubkeyHex := by
  obtain ⟨trace, shared⟩ := run.trace
  have final : roomAfter hub history = room := roomAfter_eq run found
  have there : connId ∈ system.shared.connections := by
    rw [HubRoom.connections_of_some found, HashMap.mem_keys, present]
    rfl
  obtain ⟨newer, call, older, split, last⟩ :=
    trace.lastCall peer (final ▸ present) hidden (shared ▸ there)
  have task : call.task = .connection :=
    (split ▸ trace).lawful.2.2.movesKeys ((keyDuty hub).calls_asks call connId peer last.calls)
  have nothing := (keyDuty_kept hub call.connId).settled_of_idle run idle (spared call.connId)
  obtain ⟨answer, member, tells⟩ := Duty.answered run nothing split task last.calls
    (last.joined newer [] (by simp)) there
  obtain ⟨frame, sends, _⟩ := id tells
  have accepts := delivered answer (by simp [split, member]) frame sends
  subst split
  rw [← final]
  exact last.agrees trace keeps settled member tells accepts

end Runs

/-- The peers of every joined client converge to the anonymous participants of its room,
in every run that keeps the rosters. Sessions may have ended by an error. -/
theorem anonymousRoster_converges {hub : HubState} {history : List Event} {system : System}
    {room : RoomState} {connId : ConnId} {participant : ParticipantState} {handle : String}
    {keyAt : List Event → PublicKey} (run : Run hub history system) (idle : system.Idle)
    (spared : KeysSpared hub history) (keeps : ∀ event ∈ history, event.keepsRosters hub = true)
    (found : system.shared.room = some room) (anonymous : room.anonymousMode = true)
    (present : room.participants.get? connId = some participant)
    (joined : participant.helloSeen = true)
    (named : participant.participantHandle = some handle)
    (delivered : ∀ event ∈ history, ∀ frame, event.op = .trySend connId (.binary frame) →
      (event.before.channels connId).accepts = true)
    (settled : KeySettled hub history handle keyAt) :
    RosterConverged (peersAfter connId handle keyAt history) room := by
  have trace := run.trace.1
  have final : roomAfter hub history = room := roomAfter_eq run found
  have apart : ModeSeparated (groupOf room) := run.safe.separated room found
  have hidden := (apart.anonymous anonymous connId _ (members_groupOf present) joined).1
  have agree := run.peers_agree idle spared keeps found present hidden named delivered settled
  have credentialed : Credentialed (fun key => (parseX25519PubkeyHex key).isSome = true) room :=
    final ▸ trace.credentialed fun event member => Event.keepsRosters_binds (keeps event member)
  have unique : UniqueHandles room := final ▸ trace.uniqueHandles
  refine ⟨fun other current known entered => ?_, fun peer publicKey held => ?_⟩
  · obtain ⟨_, has⟩ := apart.anonymous anonymous other _ (members_groupOf known) entered
    obtain ⟨peer, called⟩ := Option.isSome_iff_exists.mp has
    obtain ⟨_, _, _, key, bound, usable⟩ := (credentialed other current known).named called
    obtain ⟨publicKey, parsed⟩ := Option.isSome_iff_exists.mp usable
    have keyOf := (RoomState.keyOf_eq_some credentialed unique).mpr
      ⟨other, current, known, called, bound⟩
    exact ⟨peer, key, publicKey, called, bound, parsed, by
      rw [agree peer, keyOf, Option.bind_some, parsed]⟩
  · rw [agree peer] at held
    obtain ⟨key, bound, _⟩ := Option.bind_eq_some_iff.mp held
    obtain ⟨other, current, known, called, _⟩ :=
      (RoomState.keyOf_eq_some credentialed unique).mp bound
    exact ⟨other, current, known, ((credentialed other current known).named called).2.1, called⟩

/-- The bytes of the key in the hellos of the script. -/
def handlesKey : PublicKey :=
  [42, 178, 221, 50, 82, 182, 53, 21, 145, 158, 90, 13, 185, 32, 123, 28, 115, 149, 146, 35, 37,
    195, 107, 178, 239, 123, 199, 78, 75, 112, 129, 25]

/-- No handler is under way, nothing that was sent to the connection was dropped, and it has joined
under the handle with the key of the script. -/
def joinedAs (connId : ConnId) (handle : String) (history : List Event) (system : System) : Bool :=
  system.idles history &&
  (history.all fun event =>
    match event.op with
    | .trySend target (.binary _) =>
        target != connId || (event.before.channels connId).accepts
    | _ => true) &&
  system.shared.room.any fun room =>
    room.anonymousMode && (room.keyOf handle).bind parseX25519PubkeyHex == some handlesKey &&
    (room.participants.get? connId).any fun participant =>
      participant.helloSeen && participant.participantHandle == some handle

/-- What the theorem asks for, apart from the order of the sends. -/
theorem joinedAs_spec {hub : HubState} {history : List Event} {system : System} {connId : ConnId}
    {handle : String} (run : Run hub history system)
    (checks : joinedAs connId handle history system = true) :
    ∃ room participant, system.Idle ∧ system.shared.room = some room ∧
      room.anonymousMode = true ∧ room.participants.get? connId = some participant ∧
      participant.helloSeen = true ∧ participant.participantHandle = some handle ∧
      (∀ event ∈ history, ∀ frame, event.op = .trySend connId (.binary frame) →
        (event.before.channels connId).accepts = true) ∧
      KeySettled hub history handle fun _ => handlesKey := by
  simp only [joinedAs, Bool.and_eq_true, Option.any_eq_true, beq_iff_eq] at checks
  obtain ⟨⟨idles, accepted⟩, room, found, ⟨anonymous, key⟩, participant, present, joined, named⟩ :=
    checks
  refine ⟨room, participant, run.idle idles, found, anonymous, present, joined, named, ?_, ?_⟩
  · intro event member frame sends
    have accepts := List.all_eq_true.mp accepted event member
    rw [sends] at accepts
    simpa using accepts
  · intro newer older split still
    rw [roomAfter_eq run found]
    exact key

/-- Steps that look up whom the room has spare the handlers of a hub that can encode all. -/
theorem KeysSpared.of_lookups {hub : HubState} {history : List Event}
    (encodes : ∀ frame, (encodable hub frame).isSome = true)
    (lookups : ∀ event ∈ history, ∀ target, event.op = .lookup target →
      target ∈ event.before.connections) : KeysSpared hub history := by
  intro connId newer event older split _
  have member : event ∈ own connId .connection history := by simp [split]
  unfold Event.SparesKeys
  split
  · next op => exact lookups event (mem_own.mp member).1 _ op
  · exact fun _ roster update _ _ _ => ⟨encodes _, encodes _⟩
  · exact encodes _
  · exact fun _ => encodes _
  · trivial

/-- The fox and the owl join. A third connection sends a frame that is too long. -/
def brokenScript : List Move :=
  handlesScript ++ [.connect 3 5, .receive 3 (.binary [255, 255, 255, 255]), .advance 3 6]

/-- The session of the third connection was ended by an error. -/
def brokenThird (system : System) : Bool :=
  (system.connections 3).any fun connection =>
    match connection.phase with
    | .returned (.error _) => true
    | _ => false

/-- Whoever is looked up is there. -/
def Event.finds (event : Event) : Bool :=
  match event.op with
  | .lookup target => decide (target ∈ event.before.connections)
  | _ => true

theorem anonymousRoster_converges_script :
    ∃ history system room, Run handlesHub history system ∧ brokenThird system = true ∧
      system.shared.room = some room ∧
      RosterConverged (peersAfter 1 "fox" (fun _ => handlesKey) history) room := by
  obtain ⟨history, system, run, checks⟩ := Run.of_played handlesHub brokenScript
    (fun history system => (brokenThird system && joinedAs 1 "fox" history system) &&
      history.all fun event => event.keepsRosters handlesHub && event.finds) (by decide +kernel)
  obtain ⟨both, events⟩ := Bool.and_eq_true_iff.mp checks
  obtain ⟨broken, joined⟩ := Bool.and_eq_true_iff.mp both
  have each := fun event member => Bool.and_eq_true_iff.mp (List.all_eq_true.mp events event member)
  have spared : KeysSpared handlesHub history := by
    refine .of_lookups (fun _ => rfl) fun event member target op => ?_
    have passed := (each event member).2
    unfold Event.finds at passed
    rw [op] at passed
    exact of_decide_eq_true passed
  obtain ⟨room, participant, idle, found, anonymous, present, entered, named, delivered, settled⟩ :=
    joinedAs_spec run joined
  exact ⟨history, system, room, run, broken, found, anonymousRoster_converges run idle spared
    (fun event member => (each event member).1) found anonymous present entered named delivered
      settled⟩

/-- While the hello of the fox is answered, the owl joins. The roster that the fox is sent
then is older than the update about the owl. -/
def overtakenRosterScript : List Move :=
  [.connect 1 0, .connect 2 0] ++ sendsFrame 1 0 1 4 ++ sendsFrame 2 1 2 14 ++
    List.replicate 10 (.advance 1 3)

/-- The fox never learns the key of the owl. -/
theorem anonymousRoster_diverges :
    ∃ history system room participant, Run handlesHub history system ∧ system.Idle ∧
      system.shared.room = some room ∧ room.anonymousMode = true ∧
      room.participants.get? 1 = some participant ∧ participant.helloSeen = true ∧
      participant.participantHandle = some "fox" ∧
      (∀ event ∈ history, ∀ frame, event.op = .trySend 1 (.binary frame) →
        (event.before.channels 1).accepts = true) ∧
      KeySettled handlesHub history "fox" (fun _ => handlesKey) ∧
      ¬ RosterConverged (peersAfter 1 "fox" (fun _ => handlesKey) history) room := by
  obtain ⟨history, system, run, checks⟩ := Run.of_played handlesHub overtakenRosterScript
    (fun history system => joinedAs 1 "fox" history system &&
      (peersAfter 1 "fox" (fun _ => handlesKey) history).get? "owl" == none &&
        system.shared.room.any fun room => (room.participants.get? 2).any fun participant =>
          participant.helloSeen && participant.participantHandle == some "owl")
    (by decide +kernel)
  simp only [Bool.and_eq_true, Option.any_eq_true, beq_iff_eq] at checks
  obtain ⟨⟨joined, unknown⟩, other, same, owl, owlFound, owlJoined, owlNamed⟩ := checks
  obtain ⟨room, participant, idle, found, anonymous, present, entered, named, delivered, settled⟩ :=
    joinedAs_spec run joined
  refine ⟨history, system, room, participant, run, idle, found, anonymous, present, entered, named,
    delivered, settled, fun converged => ?_⟩
  rw [found] at same
  cases same
  obtain ⟨handle, _, publicKey, called, _, _, held⟩ := converged.known 2 owl owlFound owlJoined
  rw [owlNamed] at called
  cases called
  rw [unknown] at held
  cases held

end Kaigi.Hub
