import Kaigi.Hub.AnonymousRoster
import Kaigi.Hub.HandlerRules
import Kaigi.Hub.KeyBinding
import Kaigi.Hub.SenderAuthenticity

/-!
# Relays of sealed frames

A sealed frame is relayed by the task that has checked its sender, and that has told everybody
the key of the sender before. So whoever gets the frame and knows what it was told has the key
that the frame is to be opened with.
-/

set_option autoImplicit false

namespace Kaigi.Hub

open Collections Wire Interleaving Authority Client Replication

/-! ### What a relaying task has done -/

/-- The task has checked the sealed frame, and has looked and sent at most since. When it did,
it had told everybody what it owed them about keys. -/
inductive Relaying (hub : HubState) (connId : ConnId) (enc : EncryptedControlFrame)
    (past : List Event) : Prop where
  | checked {since before : List Event} {check : Event} {room : RoomState} :
      past = since ++ check :: before → (∀ event ∈ since, event.op.isPlumbing = true) →
      check.op = .read → check.before.room = some room → SealedFor room connId enc →
      (keyDuty hub).Settled before → Relaying hub connId enc past

/-- A sealed frame is sent only by a task that has checked it. -/
def RelaysChecked (hub : HubState) (connId : ConnId) (past : List Event) (op : Operation)
    (_ : HubRoom) : Prop :=
  ∀ enc, op.frame? = some (.encryptedControl enc) → Relaying hub connId enc past

section Handlers

variable {hub : HubState} {connId : ConnId} {past : List Event} {enc : EncryptedControlFrame}
  {world : World}

theorem Relaying.cons (relaying : Relaying hub connId enc past) {event : Event}
    (plumbing : event.op.isPlumbing = true) : Relaying hub connId enc (event :: past) := by
  cases relaying with
  | @checked since before check room split quiet looks found sealedFor settled =>
      subst split
      have split : event :: (since ++ check :: before) = (event :: since) ++ check :: before := rfl
      exact .checked split (List.forall_mem_cons.mpr ⟨plumbing, quiet⟩) looks found sealedFor
        settled

theorem relaysChecked_of_unsealed {op : Operation}
    (unsealed : ∀ enc, op.frame? ≠ some (.encryptedControl enc)) (past : List Event)
    (state : HubRoom) : RelaysChecked hub connId past op state :=
  fun enc carried => absurd carried (unsealed enc)

theorem relaysChecked_parts : AdmitsParts (RelaysChecked hub connId) := by
  intro op past state part
  refine relaysChecked_of_unsealed (fun enc carried => ?_) past state
  cases op with
  | trySend target message =>
      cases message with
      | binary frame =>
          cases carried
          cases part
      | _ => cases carried
  | fanout => cases part
  | _ => cases carried

/-- Without a check a task may send every other frame. -/
theorem handlerRules_unsealed :
    HandlerRules hub (fun frame => ∀ enc, frame ≠ .encryptedControl enc) fun program =>
      program.Keeps (ownContract hub connId (RelaysChecked hub connId)) fun _ => True := by
  have carries : ∀ {frame : KaigiFrame} {op : Operation}, op.frame? = some frame →
      (∀ enc, frame ≠ .encryptedControl enc) → ∀ past state,
        RelaysChecked hub connId past op state := by
    intro frame op carried unsealed past state
    refine relaysChecked_of_unsealed (fun enc same => ?_) past state
    rw [carried] at same
    exact unsealed enc (Option.some.inj same)
  refine handlerRules_of_admits hub ?_ relaysChecked_parts ?_ ?_ ?_
  · intro frame managed enc same
    rw [same] at managed
    cases managed
  · exact fun dropped nowMs past state =>
      relaysChecked_of_unsealed (fun _ carried => by cases carried)
      past state
  · exact fun frame past state unsealed => carries rfl unsealed past state
  · exact fun frame target past state unsealed => carries rfl unsealed past state

theorem relays_unsealed {frame sent : KaigiFrame} (relayed : relays frame sent = true)
    (unsealed : ∀ enc, frame ≠ .encryptedControl enc) (enc : EncryptedControlFrame) :
    sent ≠ .encryptedControl enc := by
  rintro rfl
  cases frame with
  | encryptedControl other => exact unsealed other rfl
  | _ => cases relayed

/-- The relay follows the check at once. -/
theorem relays_handleEncryptedControl (settled : (keyDuty hub).Settled world.own) :
    (handleEncryptedControl hub connId enc).Meets
      (ownContract hub connId (RelaysChecked hub connId))
      (fun _ _ => True) world := by
  refine meets_critical fun state =>
    ⟨relaysChecked_parts .read world.own state rfl, ?_⟩
  have other : ∀ (program : Handler Unit) later, (program.Keeps
      (ownContract hub connId (RelaysChecked hub connId)) fun _ => True) →
        program.Meets (ownContract hub connId (RelaysChecked hub connId)) (fun _ _ => True) later :=
    fun program later keeps => keeps later trivial
  cases found : state.room with
  | none => exact other _ _ (handlerRules_unsealed.done ())
  | some room =>
      rw [Option.map_some, Option.getD_some]
      cases outcome : encryptedControlOutcome room connId enc with
      | nothing => exact other _ _ (handlerRules_unsealed.done ())
      | refused message => exact other _ _ (handlerRules_unsealed.sendError connId message)
      | relay =>
          have plumbing : Plumbing fun op => op.isPlumbing = true ∧
              ∀ sent, op.frame? = some (.encryptedControl sent) → sent = enc :=
            ⟨⟨rfl, fun _ carried => by cases carried⟩,
            fun _ => ⟨rfl, fun _ carried => by cases carried⟩,
              fun _ _ => ⟨rfl, fun _ carried => by cases carried⟩,
              fun _ _ => ⟨rfl, fun _ carried => by cases carried⟩⟩
          have relays : Relays (fun op => op.isPlumbing = true ∧
              ∀ sent, op.frame? = some (.encryptedControl sent) → sent = enc)
                (.encryptedControl enc) :=
            ⟨⟨rfl, fun _ carried => by cases carried; rfl⟩,
              fun _ => ⟨rfl, fun _ carried => by cases carried; rfl⟩⟩
          have relaying : Relaying hub connId enc
              (⟨connId, .connection, .read, state⟩ :: world.own) :=
            .checked (List.nil_append _).symm (List.forall_mem_nil _) rfl found
              (encryptedControlOutcome_relay outcome) settled
          have keeps : (broadcastFrame hub (.encryptedControl enc)).Keeps
              (ownContract hub connId (RelaysChecked hub connId))
                fun world => Relaying hub connId enc world.own := by
            refine (performs_broadcastFrame plumbing relays).keeps
              (stable_own fun past => Relaying hub connId enc past) ?_ fun _ _ _ => trivial
            rintro op world ⟨quiet, only⟩ relaying
            exact ⟨fun sent carried => only sent carried ▸ relaying, relaying.cons quiet⟩
          exact (keeps _ relaying).mono fun _ _ _ => trivial

/-- What a program is admitted and what it reaches may be shown one by one. -/
theorem meets_admitted {admits : List Event → Operation → HubRoom → Prop} {Value : Type}
    {post : Value → World → Prop} {program : Handler Value} {mayFail : List Event → Prop}
    (reaches : program.Meets (taskContract hub connId .connection mayFail) post world)
    (admitted : program.Meets (ownContract hub connId admits) (fun _ _ => True) world) :
    program.Meets (ownContract hub connId admits) post world := by
  induction program generalizing world with
  | done value => exact reaches
  | fail error => trivial
  | ask next ih => exact fun answer => ih answer (reaches answer) (admitted answer)
  | atomic op next ih =>
      intro later same
      exact ⟨(admitted later same).1, ih _ (reaches later same).2 (admitted later same).2⟩

/-- Every connection task relays only what it has checked, and owes nothing between frames. -/
def relayProtocol (hub : HubState) (connId : ConnId) : Protocol hub connId where
  admits := RelaysChecked hub connId
  resting past := (keyDuty hub).Settled past
  connects _ _ := Duty.settled_nil.quiet rfl
  pongs past payload state settled :=
    ⟨relaysChecked_of_unsealed (fun _ carried => by cases carried) past state,
      Duty.Owes.quiet settled rfl⟩
  serves frame world settled := by
    refine meets_admitted ((keyDuty_kept hub connId).serves frame world settled) ?_
    by_cases sealing : ∃ enc, frame = .encryptedControl enc
    · obtain ⟨enc, rfl⟩ := sealing
      exact relays_handleEncryptedControl settled
    · have unsealed : ∀ enc, frame ≠ .encryptedControl enc := fun enc same => sealing ⟨enc, same⟩
      exact handlerRules_unsealed.handleFrame frame
        (fun sent relayed => relays_unsealed relayed unsealed) world trivial
  leaves world settled := by
    refine meets_admitted ((keyDuty_kept hub connId).leaves world settled) ?_
    refine handlerRules_unsealed.handleDisconnect (fun _ _ same => by cases same) ?_ world trivial
    intro Value deltaAtMs leftAtMs next rest
    exact .atomic (stable_own fun _ => True)
      (fun world _ => relaysChecked_of_unsealed (fun _ carried => by cases carried) world.own
        world.shared) (fun _ _ => trivial) rest

end Handlers

/-! ### Keys -/

/-- The participant is known as before, with the key that it had. -/
structure KeepsKey (old new : ParticipantState) : Prop extends SameKey old new where
  handle : new.participantHandle = old.participantHandle

theorem KeepsKey.refl (participant : ParticipantState) : KeepsKey participant participant :=
  ⟨⟨rfl, rfl, rfl, id⟩, rfl⟩

theorem KeepsKey.trans {first second third : ParticipantState} (earlier : KeepsKey first second)
    (later : KeepsKey second third) : KeepsKey first third where
  anonymous := later.anonymous.trans earlier.anonymous
  epoch := later.epoch.trans earlier.epoch
  key := later.key.trans earlier.key
  joined := later.joined ∘ earlier.joined
  handle := later.handle.trans earlier.handle

section Runs

variable {hub : HubState} {history newer older : List Event} {system : System} {connId : ConnId}

/-- Only the task of a connection changes its key, and not by looking and sending. -/
theorem Lawful.keepsKey {earlier : List Event} {event : Event} {after : RoomState}
    {old new : ParticipantState} (lawful : Lawful hub earlier event)
    (left : (event.after hub).room = some after)
    (found : after.participants.get? connId = some new)
    (was : (event.before.opened hub).participants.get? connId = some old)
    (quiet : event.connId = connId → event.task = .connection → event.op.isPlumbing = true) :
    KeepsKey old new := by
  have acts : event.connId = connId → event.op.isTasks = true → event.op.isPlumbing = true :=
    fun own tasks => quiet own (lawful.ownTask tasks)
  cases Event.origin left found with
  | connects connects own fresh =>
      rw [← own, lawful.fresh _ connects] at was
      cases was
  | billed same billed =>
      rw [was] at same
      cases same
      rw [billed]
      exact ⟨⟨rfl, rfl, rfl, id⟩, rfl⟩
  | rewritten same steps =>
      rw [was] at same
      cases same
      generalize operation : event.op = op at acts steps
      clear found
      induction steps with
      | refl => exact .refl old
      | tail _ rewrites ih =>
          refine ih.trans ?_
          cases rewrites with
          | hello | rekeyed => cases acts rfl rfl
          | admitted => exact ⟨⟨rfl, rfl, rfl, fun _ => rfl⟩, rfl⟩
          | escrowed | state | track | silenced => exact ⟨⟨rfl, rfl, rfl, id⟩, rfl⟩
  | anonHello hellos own =>
      rw [hellos] at acts
      cases acts own rfl

/-- A participant keeps its key while its task looks and sends. -/
theorem Trace.keepsKey (trace : Trace hub (newer ++ older)) {first second : RoomState}
    {old new : ParticipantState} (was : (sharedAfter hub older).room = some first)
    (known : first.participants.get? connId = some old)
    (found : (sharedAfter hub (newer ++ older)).room = some second)
    (stays : second.participants.get? connId = some new)
    (quiet : ∀ event ∈ own connId .connection newer, event.op.isPlumbing = true) :
    KeepsKey old new := by
  have kept := Trace.staying (fun since _ current =>
    (∀ event ∈ own connId .connection since, event.op.isPlumbing = true) → KeepsKey old current)
    ?_ ?_ trace was (by simp [known]) found stays
  · exact kept quiet
  · intro room participant same present _
    rw [was] at same
    cases same
    rw [known] at present
    cases present
    exact .refl old
  · intro rest event room after middle last past lawful same before present left remains ih quiet
    have here : (event.before.opened hub).participants.get? connId = some middle := by
      rw [HubRoom.opened_of_some before]
      exact present
    refine (ih fun other member => quiet other ?_).trans
      (lawful.keepsKey left remains here fun own task => quiet event ?_)
    · obtain ⟨among, own, task⟩ := mem_own.mp member
      exact mem_own.mpr ⟨List.mem_cons_of_mem _ among, own, task⟩
    · exact mem_own.mpr ⟨List.mem_cons_self, own, task⟩

/-- A hello starts the first epoch, or repeats the key of the present one. -/
theorem applyAnonHelloState_epoch {participant joined : ParticipantState} {hello : AnonHelloFrame}
    {nowMs : Nat} (applied : applyAnonHelloState participant hello nowMs = .ok joined)
    (keyed : Keyed participant) :
    joined.x25519Epoch = 1 ∨ participant.anonymousMode = true ∧
      participant.x25519PubkeyHex = some hello.x25519PubkeyHex ∧
        joined.x25519Epoch = participant.x25519Epoch := by
  unfold applyAnonHelloState at applied
  dsimp only at applied
  split at applied
  · cases applied
  · next free =>
      cases applied
      cases keyed with
      | bare _ epoch => exact .inl (by simp [epoch])
      | @bound current anonymous entered positive key =>
          have same : current = hello.x25519PubkeyHex := by
            simpa [anonymous, entered, key] using free
          refine .inr ⟨anonymous, same ▸ key, ?_⟩
          simp [Nat.ne_of_gt positive]

/-- Whoever is anonymous has its handle from its hellos, and its key with the epoch from its
hellos and key updates. -/
theorem Trace.keyed_by (trace : Trace hub history) {named : ConnId → String → Prop}
    {keyed : ConnId → String → Nat → Prop}
    (hellos : ∀ event ∈ history, ∀ hello nowMs rosterAtMs,
      event.op = .anonHello hello nowMs rosterAtMs →
        named event.connId hello.participantHandle ∧ keyed event.connId hello.x25519PubkeyHex 1)
    (updates : ∀ event ∈ history, ∀ update, event.op = .groupKeyUpdate update →
      keyed event.connId update.x25519PubkeyHex update.epoch) :
    ∀ connId participant, (roomAfter hub history).participants.get? connId = some participant →
      participant.anonymousMode = true → ∃ handle key,
        participant.participantHandle = some handle ∧ participant.x25519PubkeyHex = some key ∧
          named connId handle ∧ keyed connId key participant.x25519Epoch := by
  refine Trace.room (fun past room => (∀ event ∈ past, event ∈ history) →
    ∀ connId participant, room.participants.get? connId = some participant →
      participant.anonymousMode = true → ∃ handle key,
        participant.participantHandle = some handle ∧ participant.x25519PubkeyHex = some key ∧
          named connId handle ∧ keyed connId key participant.x25519Epoch) ?_ ?_ trace
            fun _ member => member
  · intro _ _ connId participant found
    simp [emptyRoom] at found
  · intro earlier event after past lawful same ih left among connId new found anonymous
    have before := ih fun other member => among other (List.mem_cons_of_mem _ member)
    have happened := among event List.mem_cons_self
    cases Event.origin left found with
    | connects _ _ fresh =>
        rw [fresh] at anonymous
        cases anonymous
    | @billed old was billed =>
        rw [billed] at anonymous ⊢
        exact before connId old was anonymous
    | @rewritten old was steps =>
        have start := before connId old was
        generalize operation : event.op = op at steps
        clear found
        induction steps with
        | refl => exact start anonymous
        | @tail middle last _ rewrites ih =>
            cases rewrites with
            | hello => cases anonymous
            | @rekeyed update =>
                obtain ⟨handle, _, hasHandle, _, isNamed, _⟩ := ih anonymous
                exact ⟨handle, update.x25519PubkeyHex, hasHandle, rfl, isNamed,
                  updates event happened update operation⟩
            | admitted | escrowed | state | track | silenced => exact ih anonymous
    | @anonHello hello nowMs rosterAtMs old hellosHere own was _ applied =>
        obtain ⟨isNamed, isKeyed⟩ := hellos event happened hello nowMs rosterAtMs hellosHere
        rw [own] at isNamed isKeyed
        have keyedRoom : KeyedRoom (event.before.opened hub) := same ▸ past.keyed
        have epoch : keyed connId hello.x25519PubkeyHex new.x25519Epoch := by
          rcases applyAnonHelloState_epoch applied (keyedRoom connId old was) with
            first | ⟨hidden, key, same⟩
          · rw [first]
            exact isKeyed
          · obtain ⟨_, other, _, has, _, isKeyed⟩ := before connId old was hidden
            rw [key] at has
            cases has
            rw [same]
            exact isKeyed
        unfold applyAnonHelloState at applied
        dsimp only at applied
        split at applied
        · cases applied
        · cases applied
          exact ⟨hello.participantHandle, hello.x25519PubkeyHex, rfl, rfl, isNamed, epoch⟩

/-- The connection has bound its handle to its key by the event, and has had both ever since. -/
structure BoundSince (hub : HubState) (connId : ConnId) (handle key : String)
    (newer : List Event) (bound : Event) (older : List Event) : Prop where
  actor : bound.connId = connId
  room : ∃ room, bound.before.room = some room
  binds : bound.op.binds hub connId (bound.before.opened hub) = some (handle, key)
  held : ∀ left right, newer = left ++ right → ∃ room participant,
    (sharedAfter hub (right ++ bound :: older)).room = some room ∧
      room.participants.get? connId = some participant ∧ participant.anonymousMode = true ∧
        participant.participantHandle = some handle ∧ participant.x25519PubkeyHex = some key

theorem Trace.boundSince (trace : Trace hub history) :
    ∀ connId participant, (roomAfter hub history).participants.get? connId = some participant →
      participant.anonymousMode = true → ∃ handle key newer bound older,
        history = newer ++ bound :: older ∧ BoundSince hub connId handle key newer bound older := by
  refine Trace.room (fun past room => ∀ connId participant,
    room.participants.get? connId = some participant → participant.anonymousMode = true →
      ∃ handle key newer bound older, past = newer ++ bound :: older ∧
        BoundSince hub connId handle key newer bound older) ?_ ?_ trace
  · intro _ connId participant found
    simp [emptyRoom] at found
  · intro earlier event after past lawful same ih left connId new found anonymous
    cases lawful.introduced left found with
    | @before old was keeps =>
        obtain ⟨handle, key, newer, bound, older, split, since⟩ :=
          ih connId old was (keeps.anonymous.symm.trans anonymous)
        subst split
        refine ⟨handle, key, event :: newer, bound, older, rfl, since.actor, since.room,
          since.binds, ?_⟩
        intro first right split
        cases first with
        | nil =>
            obtain rfl : event :: newer = right := split
            obtain ⟨room, participant, here, present, _, named, known⟩ := since.held [] newer rfl
            rw [same, HubRoom.opened_of_some here, present] at was
            cases was
            exact ⟨after, new, left, found, anonymous, keeps.handle.trans named,
              keeps.key.trans known⟩
        | cons head rest =>
            exact since.held rest right (List.cons.inj split).2
    | transparent transparent =>
        rw [transparent] at anonymous
        cases anonymous
    | @bound handle key old own binds was _ _ _ _ named known =>
        obtain ⟨before, present, _⟩ := HubRoom.opened_found was
        refine ⟨handle, key, [], event, earlier, rfl, own, ⟨before, present⟩, own ▸ binds, ?_⟩
        intro first right split
        obtain ⟨rfl, rfl⟩ := List.nil_eq_append_iff.mp split
        exact ⟨after, new, left, found, anonymous, named, known⟩

/-- A member that has heard the key of a peer since it last changed holds that key, as long as
whatever it hears is true. -/
theorem Trace.peers_know (trace : Trace hub (newer ++ older))
    (keeps : ∀ event ∈ newer ++ older, event.keepsRosters hub = true) {recipient : ConnId}
    {handle peer key : String} {keyAt : List Event → PublicKey} (other : peer ≠ handle)
    (joined : ∀ left right, newer = left ++ right →
      (sharedAfter hub (right ++ older)).hasJoined recipient = true)
    (known : ∀ left right, newer = left ++ right →
      (roomAfter hub (right ++ older)).keyOf peer = some key)
    (answered : ∃ left answer right frame, newer = left ++ answer :: right ∧
      answer.enqueues recipient = some frame ∧ speaksOfKey frame peer) :
    (peersAfter recipient handle keyAt (newer ++ older)).get? peer =
      parseX25519PubkeyHex key := by
  have usable : ∀ {left right : List Event}, newer = left ++ right → ∀ text,
      (roomAfter hub (right ++ older)).keyOf peer = some text →
        (parseX25519PubkeyHex text).isSome = true := by
    intro left right split text bound
    subst split
    rw [List.append_assoc] at trace
    refine Credentialed.keyOf ((trace.suffix left).credentialed fun event member =>
      Event.keepsRosters_binds (keeps event ?_)) bound
    rw [List.append_assoc]
    exact List.mem_append_right _ member
  have holds : ∀ {left : List Event} {event : Event} {right : List Event} {frame : KaigiFrame},
      newer = left ++ event :: right → event.enqueues recipient = some frame →
        TrueOf (roomAfter hub (right ++ older)).keyOf frame := by
    intro left event right frame split enqueued
    have split' : newer = (left ++ [event]) ++ right := by simp [split]
    obtain ⟨current, present, entered⟩ := HubRoom.hasJoined_iff.mp (joined _ right split')
    subst split
    rw [List.append_assoc, List.cons_append] at trace
    obtain ⟨_, same, _⟩ := trace.lawful
    rw [roomAfter_of_some present]
    exact Event.keepsRosters_sends (keeps event (by simp)) (Event.enqueues_eq_some.mp enqueued).1
      (same ▸ present) (joined_mem_keys entered)
  have unchanged : Unchanged (peerMirror hub recipient handle keyAt peer).truth newer older := by
    intro left event right split
    have split' : newer = (left ++ [event]) ++ right := by simp [split]
    have now := known left (event :: right) split
    have before := known _ right split'
    change ((roomAfter hub (event :: right ++ older)).keyOf peer).bind parseX25519PubkeyHex =
      ((roomAfter hub (right ++ older)).keyOf peer).bind parseX25519PubkeyHex
    rw [now, before]
  have truthful : (peerMirror hub recipient handle keyAt peer).Truthful newer older := by
    intro left event right value split heard
    have split' : newer = (left ++ [event]) ++ right := by simp [split]
    rcases Option.or_eq_some_iff.mp heard with reported | ⟨_, turned⟩
    · obtain ⟨frame, enqueued, reported⟩ := Option.bind_eq_some_iff.mp reported
      exact .inl (reportOf_true (usable split') (holds split enqueued) reported fun _ => other)
    · rw [if_neg fun turns => other turns.2] at turned
      cases turned
  obtain ⟨left, answer, right, frame, split, enqueued, speaks⟩ := answered
  have split' : newer = (left ++ [answer]) ++ right := by simp [split]
  have about : (∃ roster, frame = .anonRoster roster) ∨
      ∃ update, frame = .groupKeyUpdate update ∧ update.participantHandle = peer := by
    cases frame with
    | anonRoster roster => exact .inl ⟨roster, rfl⟩
    | groupKeyUpdate update => exact .inr ⟨update, rfl, Eq.symm speaks⟩
    | _ => exact speaks.elim
  have heard : ((peerMirror hub recipient handle keyAt peer).hears answer
      (right ++ older)).isSome = true := by
    change (Option.or _ _).isSome = true
    rw [enqueued, Option.bind_some, Option.isSome_or,
      isSome_reportOf (usable split') (holds split enqueued) about]
    rfl
  refine (Mirror.agrees unchanged truthful ⟨left, answer, right, split, heard⟩).trans ?_
  change ((roomAfter hub (newer ++ older)).keyOf peer).bind parseX25519PubkeyHex = _
  rw [known [] newer rfl, Option.bind_some]

/-- What a relay of a sealed frame tells about its sender. -/
structure RelayedFrom (hub : HubState) (sender : ConnId) (enc : EncryptedControlFrame)
    (before : List Event) : Prop where
  checked : ∃ since check past, before = since ++ check :: past ∧ check.op = .read ∧
    (∀ event ∈ own sender .connection since, event.op.isPlumbing = true) ∧
      (keyDuty hub).Settled (own sender .connection past)
  present : ∃ room participant, (sharedAfter hub before).room = some room ∧
    room.participants.get? sender = some participant ∧ participant.anonymousMode = true ∧
      participant.participantHandle = some enc.senderHandle ∧ participant.x25519Epoch = enc.epoch

theorem Run.relayedFrom (run : Run hub history system) {relay : Event}
    {enc : EncryptedControlFrame} (split : history = newer ++ relay :: older)
    (relays : relay.op.frame? = some (.encryptedControl enc)) :
    RelayedFrom hub relay.connId enc older := by
  have happened : relay ∈ history := by simp [split]
  have task := run.frame_task happened relays fun _ same => by cases same
  have trace := (split ▸ run.trace.1).suffix newer
  have tasks : ∀ event ∈ older, event.op.isTasks = true → event.task = .connection := by
    intro event member
    obtain ⟨first, second, rfl⟩ := List.append_of_mem member
    have within : history = (newer ++ relay :: first) ++ event :: second := by simp [split]
    exact (within ▸ run.trace.1).lawful.2.2.ownTask
  have admitted : RelaysChecked hub relay.connId (own relay.connId .connection older) relay.op
      relay.before := by
    rcases ((relayProtocol hub relay.connId).kept run).admitted newer relay older split rfl
      task with
      ⟨_, connects⟩ | admitted
    · rw [connects] at relays
      cases relays
    · exact admitted
  cases admitted enc relays with
  | @checked _ _ check room owns quiet looks found sealedFor settled =>
      obtain ⟨since, past, rfl, rfl, rfl, _⟩ := own_eq_append owns
      refine ⟨⟨since, check, past, rfl, looks, quiet, settled⟩, ?_⟩
      obtain ⟨participant, present, isAnonymous, named, epoch⟩ := sealedFor.sender
      obtain ⟨anonymous, joined⟩ := Bool.and_eq_true_iff.mp isAnonymous
      have earlier : Trace hub (since ++ check :: past) := by
        cases trace with
        | step before => exact before
      obtain ⟨_, same, _⟩ := earlier.lawful
      have regrouped : since ++ check :: past = (since ++ [check]) ++ past := by simp
      have quietToo : ∀ event ∈ own relay.connId .connection (since ++ [check]),
          event.op.isPlumbing = true := by
        intro event member
        rw [own_append] at member
        rcases List.mem_append.mp member with recent | last
        · exact quiet event recent
        · rw [List.mem_singleton.mp (mem_own.mp last).1, looks]
          rfl
      rw [regrouped] at earlier tasks ⊢
      have known : (sharedAfter hub past).knows relay.connId (.handle enc.senderHandle) = true :=
        HubRoom.hasHandle_iff.mpr
          ⟨room, participant, same ▸ found, present, joined, anonymous, named⟩
      have stays := earlier.knows_stays known (stays_of_own
        (fun event member => tasks event (List.mem_append_left _ member)) fun event member => ?_)
      · obtain ⟨last, here, left, there, _, hidden, called⟩ := HubRoom.hasHandle_iff.mp stays
        have keeps := earlier.keepsKey (same ▸ found) present left there quietToo
        exact ⟨last, here, left, there, hidden, called, keeps.epoch.trans epoch⟩
      · have plumbing := quietToo event member
        cases op : event.op with
        | disconnect =>
            rw [op] at plumbing
            cases plumbing
        | _ => rfl

/-- As a member of the room, the recipient is sent a roster. -/
def Event.welcomes (event : Event) (recipient : ConnId) : Bool :=
  event.before.hasJoined recipient &&
    match event.enqueues recipient with
    | some (.anonRoster _) => true
    | _ => false

theorem Event.welcomes_iff {event : Event} {recipient : ConnId} :
    event.welcomes recipient = true ↔ event.before.hasJoined recipient = true ∧
      ∃ roster, event.enqueues recipient = some (.anonRoster roster) := by
  unfold Event.welcomes
  rw [Bool.and_eq_true]
  refine and_congr_right fun _ => ?_
  split
  · next roster enqueued => exact ⟨fun _ => ⟨roster, enqueued⟩, fun _ => rfl⟩
  · next other =>
      constructor
      · intro none
        cases none
      · rintro ⟨roster, same⟩
        exact absurd same (other roster)

/-- Of two different items of a list one comes before the other. -/
theorem ordered_of_split {Item : Type} {newer older left right : List Item} {first second : Item}
    (split : newer ++ first :: older = left ++ second :: right) (different : first ≠ second) :
    (∃ middle, newer = left ++ second :: middle ∧ right = middle ++ first :: older) ∨
      ∃ middle, left = newer ++ first :: middle ∧ older = middle ++ second :: right := by
  rcases List.append_eq_append_iff.mp split with ⟨between, rfl, rest⟩ | ⟨between, rfl, rest⟩
  · cases between with
    | nil => exact absurd (List.cons.inj rest).1 different
    | cons head middle =>
        obtain ⟨rfl, rfl⟩ := List.cons.inj rest
        exact .inr ⟨middle, rfl, rfl⟩
  · cases between with
    | nil => exact absurd (List.cons.inj rest).1.symm different
    | cons head middle =>
        obtain ⟨rfl, rfl⟩ := List.cons.inj rest
        exact .inl ⟨middle, rfl, rfl⟩

namespace BoundSince

variable {handle key : String} {bound : Event} {recipient : ConnId}

/-- Since then the room has known that key. -/
theorem keyOf (since : BoundSince hub connId handle key newer bound older)
    (trace : Trace hub (newer ++ bound :: older))
    (keeps : ∀ event ∈ newer ++ bound :: older, event.keepsRosters hub = true)
    {left right : List Event} (split : newer = left ++ right) :
    (roomAfter hub (right ++ bound :: older)).keyOf handle = some key ∧
      (parseX25519PubkeyHex key).isSome = true := by
  obtain ⟨room, participant, here, present, _, named, known⟩ := since.held left right split
  subst split
  rw [List.append_assoc] at trace
  have credentialed : Credentialed (fun key => (parseX25519PubkeyHex key).isSome = true)
      (roomAfter hub (right ++ bound :: older)) := by
    refine (trace.suffix left).credentialed fun event member =>
      Event.keepsRosters_binds (keeps event ?_)
    rw [List.append_assoc]
    exact List.mem_append_right _ member
  have keyOf : (roomAfter hub (right ++ bound :: older)).keyOf handle = some key := by
    refine (RoomState.keyOf_eq_some credentialed (trace.suffix left).uniqueHandles).mpr ?_
    rw [roomAfter_of_some here]
    exact ⟨connId, participant, present, named, known⟩
  exact ⟨keyOf, credentialed.keyOf keyOf⟩

theorem movesKeys (since : BoundSince hub connId handle key newer bound older) :
    bound.op.movesKeys = true := by
  have binds := since.binds
  cases op : bound.op with
  | anonHello | groupKeyUpdate => rfl
  | _ =>
      rw [op] at binds
      cases binds

/-- Members that had joined by then have been told by a task that owed them the key, and looked
and sent at most since. -/
theorem told (since : BoundSince hub connId handle key newer bound older)
    (trace : Trace hub (newer ++ bound :: older)) {recent past : List Event} {check : Event}
    (within : newer ++ bound :: older = recent ++ check :: past) (looks : check.op = .read)
    (quiet : ∀ event ∈ own connId .connection recent, event.op.isPlumbing = true)
    (settled : (keyDuty hub).Settled (own connId .connection past))
    (joined : ∀ left right, newer = left ++ right →
      (sharedAfter hub (right ++ bound :: older)).hasJoined recipient = true) :
    ∃ left answer right, newer = left ++ answer :: right ∧
      (keyDuty hub).Tells answer recipient handle := by
  have moves := since.movesKeys
  have task : bound.task = .connection := (Trace.lawful newer trace).2.2.movesKeys moves
  have later : ∃ middle, newer = recent ++ check :: middle ∧ past = middle ++ bound :: older := by
    have different : bound ≠ check := by
      rintro rfl
      rw [looks] at moves
      cases moves
    rcases ordered_of_split within different with later | ⟨middle, rfl, _⟩
    · exact later
    · have plumbing := quiet bound (mem_own.mpr ⟨by simp, since.actor, task⟩)
      cases op : bound.op with
      | anonHello | groupKeyUpdate | disconnect =>
          rw [op] at plumbing
          cases plumbing
      | _ =>
          rw [op] at moves
          cases moves
  obtain ⟨middle, rfl, rfl⟩ := later
  have owns : own connId .connection (middle ++ bound :: older) =
      own connId .connection middle ++ bound :: own connId .connection older := by
    obtain ⟨actor, job, op, before⟩ := bound
    obtain rfl : actor = connId := since.actor
    obtain rfl : job = .connection := task
    rw [own_append, own_cons_self]
  have calls : (keyDuty hub).calls bound recipient handle := by
    obtain ⟨room, found⟩ := since.room
    have binds := since.binds
    rw [HubRoom.opened_of_some found] at binds
    exact ⟨room, found, .inl ⟨handle, key, since.actor ▸ binds, .inr rfl⟩⟩
  rcases settled _ bound _ owns recipient handle calls with ⟨answer, member, told⟩ | impossible
  · obtain ⟨happened, _, _⟩ := mem_own.mp member
    obtain ⟨left, right, rfl⟩ := List.append_of_mem happened
    have split : recent ++ check :: (left ++ answer :: right) =
        (recent ++ check :: left) ++ answer :: right := by simp
    refine ⟨recent ++ check :: left, answer, right, split, told.resolve_right fun absent => ?_⟩
    have here := joined (recent ++ check :: (left ++ [answer])) right (by simp)
    rw [split, List.append_assoc] at trace
    obtain ⟨_, same, _⟩ := Trace.lawful (recent ++ check :: left) trace
    rw [same] at absent
    exact Bool.noConfusion (here.symm.trans absent)
  · exact impossible.elim

end BoundSince

/-- A member that has been welcomed knows the key of the sender whose sealed frame it is sent: it
was told the last key before, by the roster or by the task of the sender. -/
theorem Run.relay_known (run : Run hub history system) {relay : Event}
    {enc : EncryptedControlFrame} {recipient : ConnId} {handle : String}
    {keyAt : List Event → PublicKey} (split : history = newer ++ relay :: older)
    (relays : relay.op.frame? = some (.encryptedControl enc))
    (keeps : ∀ event ∈ older, event.keepsRosters hub = true)
    (delivered : ∀ event ∈ older, ∀ frame, event.op = .trySend recipient (.binary frame) →
      (event.before.channels recipient).accepts = true)
    (stays : recipient ∈ (sharedAfter hub older).connections)
    (welcomed : ∃ event ∈ older, event.welcomes recipient = true)
    (other : enc.senderHandle ≠ handle) :
    ∃ room participant key publicKey, (sharedAfter hub older).room = some room ∧
      room.participants.get? relay.connId = some participant ∧ participant.anonymousMode = true ∧
      participant.participantHandle = some enc.senderHandle ∧
      participant.x25519Epoch = enc.epoch ∧ participant.x25519PubkeyHex = some key ∧
      parseX25519PubkeyHex key = some publicKey ∧
      (peersAfter recipient handle keyAt older).get? enc.senderHandle = some publicKey := by
  obtain ⟨⟨since, check, past, passed, looks, quiet, settled⟩, room, participant, here, present,
    anonymous, named, epoch⟩ := run.relayedFrom split relays
  have trace : Trace hub older := by
    cases (split ▸ run.trace.1).suffix newer with
    | step before => exact before
  have found : (roomAfter hub older).participants.get? relay.connId = some participant := by
    rw [roomAfter_of_some here]
    exact present
  obtain ⟨name, key, later, bound, earlier, within, since'⟩ :=
    trace.boundSince relay.connId participant found anonymous
  subst within
  obtain ⟨last, member, lastHere, lastPresent, _, called, known⟩ := since'.held [] later rfl
  rw [here] at lastHere
  cases lastHere
  rw [present] at lastPresent
  cases lastPresent
  obtain rfl : enc.senderHandle = name := Option.some.inj (named.symm.trans called)
  obtain ⟨publicKey, parsed⟩ := Option.isSome_iff_exists.mp
    (since'.keyOf trace keeps (List.nil_append later).symm).2
  refine ⟨room, participant, key, publicKey, here, present, anonymous, named, epoch, known,
    parsed, ?_⟩
  rw [← parsed]
  -- Whoever has joined at some moment has joined at every later one.
  have staying : ∀ left middle first : List Event, later ++ bound :: earlier =
      left ++ (middle ++ first) → (sharedAfter hub first).hasJoined recipient = true →
        (sharedAfter hub (middle ++ first)).hasJoined recipient = true := by
    intro left middle first split joined
    rw [split] at trace stays
    exact trace.joined_throughout joined stays
  cases joined : (sharedAfter hub (bound :: earlier)).hasJoined recipient with
  | true =>
      have members : ∀ left right, later = left ++ right →
          (sharedAfter hub (right ++ bound :: earlier)).hasJoined recipient = true := by
        intro left right split
        exact staying left right (bound :: earlier) (by simp [split]) joined
      obtain ⟨left, answer, right, split, frame, sends, speaks⟩ :=
        since'.told trace passed looks quiet settled members
      refine trace.peers_know keeps other members
        (fun left right split => (since'.keyOf trace keeps split).1) ⟨left, answer, right, frame,
          split, Event.enqueues_eq_some.mpr ⟨sends, ?_⟩, speaks⟩
      exact delivered answer (by simp [split]) frame sends
  | false =>
      -- The roster that welcomes the recipient comes after the key was bound.
      obtain ⟨welcome, happened, welcomes⟩ := welcomed
      obtain ⟨entered, roster, enqueued⟩ := Event.welcomes_iff.mp welcomes
      obtain ⟨left, right, split⟩ := List.append_of_mem happened
      obtain ⟨_, same, _⟩ := Trace.lawful left (split ▸ trace)
      rw [same] at entered
      have sends := (Event.enqueues_eq_some.mp enqueued).1
      have different : bound ≠ welcome := by
        rintro rfl
        have moves := since'.movesKeys
        rw [sends] at moves
        cases moves
      have after : ∃ middle, later = left ++ welcome :: middle ∧
          right = middle ++ bound :: earlier := by
        rcases ordered_of_split split different with after | ⟨first, _, rfl⟩
        · exact after
        · have regrouped : later ++ bound :: (first ++ welcome :: right) =
              later ++ ((bound :: first ++ [welcome]) ++ right) := by simp
          have before := staying later (bound :: first ++ [welcome]) right regrouped entered
          rw [List.append_assoc] at before
          exact Bool.noConfusion (before.symm.trans joined)
      obtain ⟨middle, rfl, rfl⟩ := after
      have regrouped : left ++ welcome :: middle ++ bound :: earlier =
          (left ++ [welcome]) ++ (middle ++ bound :: earlier) := by simp
      rw [regrouped] at trace keeps ⊢
      refine trace.peers_know keeps other ?_ ?_
        ⟨left, welcome, [], _, rfl, enqueued, trivial⟩
      · intro first second split
        refine staying first second (middle ++ bound :: earlier) ?_ entered
        rw [regrouped, split, List.append_assoc]
      · intro first second split
        have within : left ++ welcome :: middle = first ++ (second ++ middle) := by
          rw [← List.append_assoc, ← split]
          simp
        rw [← List.append_assoc]
        exact (since'.keyOf (regrouped ▸ trace) (regrouped ▸ keeps) within).1

end Runs

end Kaigi.Hub
