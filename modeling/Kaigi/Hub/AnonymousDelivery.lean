import Kaigi.Hub.AnonymousAssembly

/-!
# Delivery of sealed lines

What a member of an anonymous room seals for another one opens for that one to what it was, or
not at all. It opens whenever the two know the keys of each other, and the recipient knows the
key of the sender if nothing that the hub told it about keys was lost or late.
-/

set_option autoImplicit false

namespace Kaigi.Hub

open Collections Wire Interleaving Client

/-! ### What a client hears -/

/-- The peers of a client that has read these frames and kept its key. -/
def readFrames (own : AnonLocalState) (frames : List KaigiFrame) : Peers :=
  frames.foldl (readFrame own) (initialPeers own)

theorem readFrames_append (own : AnonLocalState) (frames : List KaigiFrame) (frame : KaigiFrame) :
    readFrames own (frames ++ [frame]) = readFrame own (readFrames own frames) frame := by
  rw [readFrames, List.foldl_append]
  rfl

/-- The key of the client makes no difference for what it hears about others. -/
theorem reportOf_own {handle peer : String} (other : peer ≠ handle) (first second : PublicKey)
    (frame : KaigiFrame) :
    reportOf ⟨handle, first⟩ peer frame = reportOf ⟨handle, second⟩ peer frame := by
  cases frame with
  | anonRoster roster => simp [reportOf, readAnonRoster, other]
  | _ => rfl

theorem get?_readFrame_own {handle peer : String} (other : peer ≠ handle)
    (first second : PublicKey) {peers others : Peers} (same : peers.get? peer = others.get? peer)
    (frame : KaigiFrame) : (readFrame ⟨handle, first⟩ peers frame).get? peer =
      (readFrame ⟨handle, second⟩ others frame).get? peer := by
  rw [get?_readFrame, get?_readFrame, same, reportOf_own other first second]

/-- The frames that the channel of the connection has accepted. -/
def acceptedFrames (connId : ConnId) (events : List Event) : List KaigiFrame :=
  (acceptedFor connId events).filterMap Message.frame?

theorem acceptedFrames_cons (connId : ConnId) (event : Event) (earlier : List Event) :
    acceptedFrames connId (event :: earlier) =
      acceptedFrames connId earlier ++ (event.enqueues connId).toList := by
  have sent : (event.sends connId).filterMap Message.frame? = (event.enqueues connId).toList := by
    obtain ⟨actor, task, op, before⟩ := event
    cases op with
    | trySend target message =>
        cases message <;> simp only [Event.sends, Event.enqueues] <;> split <;> rfl
    | _ => rfl
  rw [acceptedFrames, acceptedFor, List.filterMap_append, sent]
  rfl

/-- Each frame that was accepted was put into the queue by some event, after the frames before
it. -/
theorem exists_enqueues {connId : ConnId} {events : List Event} {first rest : List KaigiFrame}
    {frame : KaigiFrame} (split : acceptedFrames connId events = first ++ frame :: rest) :
    ∃ since relay before, events = since ++ relay :: before ∧
      relay.enqueues connId = some frame ∧ acceptedFrames connId before = first := by
  induction events generalizing rest with
  | nil => cases first <;> cases split
  | cons event earlier ih =>
      have later : ∀ rest, acceptedFrames connId earlier = first ++ frame :: rest →
          ∃ since relay before, event :: earlier = since ++ relay :: before ∧
            relay.enqueues connId = some frame ∧ acceptedFrames connId before = first := by
        intro rest split
        obtain ⟨since, relay, before, rfl, enqueued, same⟩ := ih split
        exact ⟨event :: since, relay, before, rfl, enqueued, same⟩
      rw [acceptedFrames_cons] at split
      cases enqueued : event.enqueues connId with
      | none =>
          rw [enqueued, Option.toList_none, List.append_nil] at split
          exact later rest split
      | some latest =>
          rw [enqueued, Option.toList_some] at split
          rcases List.eq_nil_or_concat rest with rfl | ⟨middle, last, rfl⟩
          · obtain ⟨same, latest⟩ := List.append_inj' split rfl
            cases latest
            exact ⟨[], event, earlier, rfl, enqueued, same⟩
          · rw [List.concat_eq_append, ← List.cons_append, ← List.append_assoc] at split
            exact later middle (List.append_inj' split rfl).1

/-- The client knows of others what it has been sent, as soon as it has read it. -/
theorem peersAfter_readFrames {connId : ConnId} {handle peer : String}
    {keyAt : List Event → PublicKey} (other : peer ≠ handle) (publicKey : PublicKey)
    (events : List Event) : (peersAfter connId handle keyAt events).get? peer =
      (readFrames ⟨handle, publicKey⟩ (acceptedFrames connId events)).get? peer := by
  induction events with
  | nil => simp [peersAfter, acceptedFrames, acceptedFor, readFrames, initialPeers, other]
  | cons event earlier ih =>
      have kept : (if keyAt (event :: earlier) = keyAt earlier
          then peersAfter connId handle keyAt earlier
          else rekeyed ⟨handle, keyAt (event :: earlier)⟩
            (peersAfter connId handle keyAt earlier)).get? peer =
          (readFrames ⟨handle, publicKey⟩ (acceptedFrames connId earlier)).get? peer := by
        split
        · exact ih
        · rw [rekeyed, HashMap.get?_put, if_neg other]
          exact ih
      rw [acceptedFrames_cons]
      unfold peersAfter
      cases event.enqueues connId with
      | none =>
          rw [Option.toList_none, List.append_nil]
          exact kept
      | some frame =>
          rw [Option.toList_some, readFrames_append]
          exact get?_readFrame_own other _ _ kept frame

/-! ### What a client holds -/

section Members

variable {Secret : Type} {libraries : ControlLibraries Secret} {hub : HubState} {cast : Cast Secret}
  {history newer older : List (AssemblyEvent Secret)} {assembly : Assembly Secret} {connId : ConnId}
  {member next : AnonMember Secret}

/-- What the client has heard of the others. -/
def heardBy (libraries : ControlLibraries Secret) (cast : Cast Secret) (connId : ConnId)
    (history : List (AssemblyEvent Secret)) : Peers :=
  readFrames ⟨cast.handle connId, libraries.publicKey (cast.secret connId)⟩
    (framesRead connId history)

/-- Where the reader has what it is about to open: from a frame that it has read, with what it had
heard of the others by then. -/
inductive OpensFrom (libraries : ControlLibraries Secret) (cast : Cast Secret) (connId : ConnId)
    (history : List (AssemblyEvent Secret)) (opening : Opening) : Prop where
  | read {newer older : List (AssemblyEvent Secret)} {frame : KaigiFrame}
      {waiting : List KaigiFrame} {peers : Peers} : history = newer ++ older →
      framesRead connId older ++ frame :: waiting = handed connId (hubEvents older) →
      (∀ peer, peer ≠ cast.handle connId →
        peers.get? peer = (heardBy libraries cast connId older).get? peer) →
      openingOf (cast.handle connId) peers frame = some opening →
      OpensFrom libraries cast connId history opening

theorem OpensFrom.append {opening : Opening}
    (opens : OpensFrom libraries cast connId older opening)
    (newer : List (AssemblyEvent Secret)) :
    OpensFrom libraries cast connId (newer ++ older) opening := by
  cases opens with
  | @read later earlier _ _ _ split waits heard found =>
      subst split
      have split : newer ++ (later ++ earlier) = (newer ++ later) ++ earlier := by simp
      exact .read split waits heard found

structure MemberAt (libraries : ControlLibraries Secret) (cast : Cast Secret) (connId : ConnId)
    (history : List (AssemblyEvent Secret)) (member : AnonMember Secret) : Prop where
  handle : member.handle = cast.handle connId
  secret : member.secret = secretOf cast connId history
  epoch : member.epoch.toNat = epochOf connId history
  heard : ∀ peer, peer ≠ cast.handle connId →
    member.peers.get? peer = (heardBy libraries cast connId history).get? peer
  outbox : ∀ frame ∈ member.outbox, Wrote libraries cast connId history frame
  inbox : framesRead connId history ++ member.inbox = handed connId (hubEvents history)
  opening : ∀ opening, member.opening = some opening →
    OpensFrom libraries cast connId history opening

/-- Other events tell nothing about the client. -/
theorem foreign_append (cast : Cast Secret) (older : List (AssemblyEvent Secret))
    (foreign : ∀ event ∈ newer, event.of? connId = none) :
    secretOf cast connId (newer ++ older) = secretOf cast connId older ∧
      epochOf connId (newer ++ older) = epochOf connId older ∧
        framesRead connId (newer ++ older) = framesRead connId older := by
  induction newer with
  | nil => exact ⟨rfl, rfl, rfl⟩
  | cons event rest ih =>
      have other := foreign event List.mem_cons_self
      simp only [List.cons_append, secretOf, epochOf, framesRead, other]
      exact ih fun event member => foreign event (List.mem_cons_of_mem _ member)

/-- A client that stays as it is, except for what it exchanges with the hub. -/
theorem MemberAt.exchanges (here : MemberAt libraries cast connId older member)
    (foreign : ∀ event ∈ newer, event.of? connId = none) {outbox received : List KaigiFrame}
    (within : ∀ frame ∈ outbox, frame ∈ member.outbox)
    (hands : handed connId (hubEvents (newer ++ older)) =
      handed connId (hubEvents older) ++ received) :
    MemberAt libraries cast connId (newer ++ older)
      { member with outbox := outbox, inbox := member.inbox ++ received } := by
  obtain ⟨secret, epoch, read⟩ := foreign_append cast older foreign
  exact {
    handle := here.handle
    secret := here.secret.trans secret.symm
    epoch := here.epoch.trans epoch.symm
    heard := fun peer other => by
      rw [heardBy, read]
      exact here.heard peer other
    outbox := fun frame among => (here.outbox frame (within frame among)).append newer
    inbox := by rw [read, hands, ← here.inbox, List.append_assoc]
    opening := fun opening found => (here.opening opening found).append newer }

theorem MemberAt.unmoved (here : MemberAt libraries cast connId older member)
    (foreign : ∀ event ∈ newer, event.of? connId = none)
    (hands : handed connId (hubEvents (newer ++ older)) = handed connId (hubEvents older)) :
    MemberAt libraries cast connId (newer ++ older) member := by
  have same := here.exchanges foreign (fun _ among => among) (hands.trans (List.append_nil _).symm)
  rw [List.append_nil] at same
  exact same

@[simp] theorem of?_member (connId : ConnId) (event : MemberEvent Secret) :
    (AssemblyEvent.member connId event).of? connId = some event :=
  if_pos rfl

/-- Only a new key changes the key of the client, and its number. -/
theorem secretOf_member {event : Option (MemberEvent Secret)}
    (other : ∀ secret, event ≠ some (.rekeyed secret)) :
    secretOf cast connId (event.toList.map (.member connId) ++ history) =
      secretOf cast connId history := by
  cases event with
  | none => rfl
  | some event =>
      cases event with
      | rekeyed secret => exact absurd rfl (other secret)
      | _ => simp [secretOf]

theorem epochOf_member {event : Option (MemberEvent Secret)}
    (other : ∀ secret, event ≠ some (.rekeyed secret)) :
    epochOf connId (event.toList.map (.member connId) ++ history) = epochOf connId history := by
  cases event with
  | none => rfl
  | some event =>
      cases event with
      | rekeyed secret => exact absurd rfl (other secret)
      | _ => simp [epochOf]

theorem framesRead_member {event : Option (MemberEvent Secret)}
    (other : ∀ frame own, event ≠ some (.read frame own)) :
    framesRead connId (event.toList.map (.member connId) ++ history) =
      framesRead connId history := by
  cases event with
  | none => rfl
  | some event =>
      cases event with
      | read frame own => exact absurd rfl (other frame own)
      | _ => simp [framesRead]

theorem handed_member (event : Option (MemberEvent Secret)) :
    handed connId (hubEvents (event.toList.map (.member connId) ++ history)) =
      handed connId (hubEvents history) := by
  rw [hubEvents_append, hubEvents_member, List.nil_append]

/-- A client that reads nothing, and keeps its key and what it knows of the others. -/
theorem MemberAt.goesOn (here : MemberAt libraries cast connId history member)
    {event : Option (MemberEvent Secret)} (unread : ∀ frame own, event ≠ some (.read frame own))
    (unkeyed : ∀ secret, event ≠ some (.rekeyed secret))
    (same : next = { member with
      peers := next.peers
      commands := next.commands
      opening := next.opening
      outbox := next.outbox })
    (peers : ∀ peer, peer ≠ cast.handle connId → next.peers.get? peer = member.peers.get? peer)
    (opening : ∀ opening, next.opening = some opening → member.opening = some opening)
    (outbox : ∀ frame ∈ next.outbox, frame ∈ member.outbox ∨
      Wrote libraries cast connId (event.toList.map (.member connId) ++ history) frame) :
    MemberAt libraries cast connId (event.toList.map (.member connId) ++ history) next := by
  have handle : next.handle = member.handle := by rw [same]
  have secret : next.secret = member.secret := by rw [same]
  have epoch : next.epoch = member.epoch := by rw [same]
  have inbox : next.inbox = member.inbox := by rw [same]
  constructor
  · exact handle.trans here.handle
  · rw [secret, secretOf_member unkeyed]
    exact here.secret
  · rw [epoch, epochOf_member unkeyed]
    exact here.epoch
  · intro peer other
    rw [heardBy, framesRead_member unread, peers peer other]
    exact here.heard peer other
  · intro frame among
    rcases outbox frame among with before | wrote
    · exact (here.outbox frame before).append _
    · exact wrote
  · rw [inbox, framesRead_member unread, handed_member]
    exact here.inbox
  · intro found here'
    exact (here.opening found (opening found here')).append _

/-- A step of the client itself. -/
theorem MemberAt.step (here : MemberAt libraries cast connId history member)
    {move : MemberMove Secret} {event : Option (MemberEvent Secret)}
    (step : MemberStep libraries member move next event)
    (numbered : ∀ secret, move = .rekey secret → member.epoch.toNat < u64Max) :
    MemberAt libraries cast connId (event.toList.map (.member connId) ++ history) next := by
  have writes : ∀ {past : List (AssemblyEvent Secret)} {frame written : KaigiFrame},
      Wrote libraries cast connId past written → frame ∈ member.outbox ++ [written] →
        frame ∈ member.outbox ∨ Wrote libraries cast connId past frame := by
    intro past frame written wrote among
    rcases List.mem_append.mp among with before | latest
    · exact .inl before
    · rw [List.mem_singleton.mp latest]
      exact .inr wrote
  cases step with
  | @rekeyed secret waiting =>
      have below := numbered secret rfl
      have counted : (nextEpoch member.epoch).toNat = member.epoch.toNat + 1 := by
        rw [nextEpoch, if_pos below]
        exact UInt64.toNat_ofNat_of_lt (Nat.succ_lt_succ below)
      have unread : ∀ frame own, some (MemberEvent.rekeyed secret) ≠ some (.read frame own) :=
        fun _ _ same => by cases same
      constructor
      · exact here.handle
      · simp [secretOf]
      · simp [epochOf, counted, here.epoch]
      · intro peer other
        rw [heardBy, framesRead_member unread]
        exact here.heard peer other
      · exact fun frame among => (here.outbox frame among).append _
      · rw [framesRead_member unread, handed_member]
        exact here.inbox
      · exact fun opening found => (here.opening opening found).append _
  | @entered sentAtMs publicKey rekeying parsed =>
      refine here.goesOn (by simp) (by simp) rfl ?_ (fun _ found => found) fun frame => writes ?_
      · intro peer other
        rw [here.handle, HashMap.get?_put, if_neg other]
      · refine .update rfl here.epoch ?_
        rw [AnonMember.keyUpdate, here.secret]
  | waited =>
      exact here.goesOn (by simp) (by simp) rfl (fun _ _ => rfl) (fun _ found => found)
        fun _ among => .inl among
  | sealed =>
      exact here.goesOn (by simp) (by simp) rfl (fun _ _ => rfl) (fun _ found => found)
        fun _ => writes (.sealed List.mem_cons_self)
  | paid =>
      exact here.goesOn (by simp) (by simp) rfl (fun _ _ => rfl) (fun _ found => found)
        fun _ => writes .paid
  | @read frame waiting free waits =>
      have before := here.inbox
      rw [waits] at before
      have read : framesRead connId
          ((some (MemberEvent.read frame (member.own libraries))).toList.map (.member connId) ++
            history) = framesRead connId history ++ [frame] := by
        simp [framesRead]
      have unkeyed : ∀ secret : Secret, some (.read frame (member.own libraries)) ≠
          some (MemberEvent.rekeyed secret) := fun _ same => by cases same
      constructor
      · exact here.handle
      · exact here.secret.trans (secretOf_member unkeyed).symm
      · exact here.epoch.trans (epochOf_member unkeyed).symm
      · intro peer other
        rw [heardBy, read, readFrames_append, AnonMember.own, here.handle]
        exact get?_readFrame_own other _ _ (here.heard peer other) frame
      · exact fun frame among => (here.outbox frame among).append _
      · rw [read, handed_member, ← before, List.append_assoc]
        rfl
      · intro opening found
        rw [here.handle] at found
        exact .read rfl before here.heard found
  | processed =>
      exact here.goesOn (by simp) (by simp) rfl (fun _ _ => rfl) (fun _ none => by cases none)
        fun _ among => .inl among

/-- The tasks of the hub and the clients do what their histories say. -/
structure Assembled (libraries : ControlLibraries Secret) (cast : Cast Secret)
    (history : List (AssemblyEvent Secret)) (assembly : Assembly Secret) : Prop where
  hub : HubTraced libraries cast history assembly.system
  members : ∀ connId, MemberAt libraries cast connId history (assembly.members connId)

theorem Assembled.step (here : Assembled libraries cast history assembly)
    {move : AssemblyMove Secret} {after : Assembly Secret} {events : List (AssemblyEvent Secret)}
    (step : AssemblyStep libraries hub assembly move after events)
    (allowed : assembly.Allowed hub move) : Assembled libraries cast (events ++ history) after := by
  refine ⟨here.hub.step step (fun connId => (here.members connId).outbox) allowed, fun connId => ?_⟩
  cases step with
  | @hub move moved possible =>
      obtain ⟨outbox, within, same⟩ := assembly.exchanged_eq hub move connId
      change MemberAt libraries cast connId _ (assembly.exchanged hub move connId)
      rw [same]
      refine (here.members connId).exchanges ?_ within ?_
      · intro event among
        obtain ⟨_, _, rfl⟩ := List.mem_map.mp among
        rfl
      · rw [hubEvents_append, hubEvents_hub]
        cases assembly.system.event move with
        | none => simp [receivedIn]
        | some event =>
            simp [receivedIn, handed, writtenTo, List.filterMap_append]
  | @member actor move next event step =>
      change MemberAt libraries cast connId _ (Assembly.updateMember assembly.members actor
        (fun _ => next) connId)
      unfold Assembly.updateMember
      split
      · next own =>
          subst own
          refine (here.members connId).step step fun secret same => ?_
          subst same
          exact allowed
      · next other =>
          refine (here.members connId).unmoved ?_ ?_
          · intro current among
            obtain ⟨_, _, rfl⟩ := List.mem_map.mp among
            exact if_neg (Ne.symm other)
          · rw [hubEvents_append, hubEvents_member, List.nil_append]

theorem AssemblyRun.assembled (run : AssemblyRun libraries hub cast history assembly) :
    Assembled libraries cast history assembly := by
  refine Machine.RunWhere.invariant (fun past assembly => Assembled libraries cast past assembly)
    ?_ ?_ run
  · have unborn : HubTraced libraries cast [] System.initial :=
      ⟨fun _ _ found => (by cases found), fun _ happened => absurd happened List.not_mem_nil⟩
    refine ⟨unborn, fun connId => ?_⟩
    exact {
      handle := rfl
      secret := rfl
      epoch := rfl
      heard := fun _ _ => rfl
      outbox := fun frame among => by
        obtain rfl := List.mem_singleton.mp among
        exact .hello
      inbox := rfl
      opening := fun _ none => by cases none }
  · intro past before move next _ here allowed stepped
    exact here.step (Assembly.step_cases stepped) allowed

/-- What a client has done was a step of it. -/
theorem AssemblyRun.member_earlier (run : AssemblyRun libraries hub cast history assembly)
    {event : MemberEvent Secret} (split : history = newer ++ .member connId event :: older) :
    ∃ before move next, AssemblyRun libraries hub cast older before ∧
      MemberStep libraries (before.members connId) move next (some event) := by
  obtain ⟨before, move, next, past, _, left⟩ := Machine.RunWhere.earlier run newer split
  cases move with
  | hub move =>
      obtain ⟨_, _, impossible⟩ := Option.map_eq_some_iff.mp left
      cases impossible
  | member actor move =>
      obtain ⟨⟨member, performed⟩, moved, made⟩ := Option.bind_eq_some_iff.mp left
      obtain ⟨happened, same, made⟩ := Option.map_eq_some_iff.mp made
      cases made
      obtain rfl : performed = some event := same
      exact ⟨before, move, member, past, AnonMember.step_cases moved⟩

/-- What a client has sealed, it has sealed under its handle, with its key and the number of
that. -/
theorem AssemblyRun.sealed (run : AssemblyRun libraries hub cast history assembly)
    {enc : EncryptedControlFrame} {secret : Secret} {peers : Peers} {body : String}
    (split : history = newer ++ .member connId (.sealed enc secret peers body) :: older) :
    enc.senderHandle = cast.handle connId ∧ enc.epoch = epochOf connId older ∧
      secret = secretOf cast connId older ∧
      ∃ nonce : String → Vector UInt8 24, ∀ payload ∈ enc.payloads, ∃ peerPublic,
        peers.get? payload.recipientHandle = some peerPublic ∧
        encryptForRecipient libraries secret peerPublic enc.senderHandle payload.recipientHandle
          (UInt64.ofNat enc.epoch) enc.kind (nonce payload.recipientHandle) body.toUTF8.toList =
            .ok payload := by
  obtain ⟨before, move, next, past, step⟩ := run.member_earlier split
  have here := past.assembled.members connId
  cases step with
  | @sealed sentAtMs input order nonce enc commands waiting rests made =>
      obtain ⟨sender, epoch, kind, payloads⟩ := sealFrame_eq_ok made
      refine ⟨sender.trans here.handle, epoch.trans here.epoch, here.secret, nonce, ?_⟩
      rw [sender, epoch, kind, UInt64.ofNat_toNat]
      exact payloads

/-- The numbers of the keys of a client grow with its keys. -/
theorem epochOf_append (newer older : List (AssemblyEvent Secret)) :
    epochOf connId older ≤ epochOf connId (newer ++ older) ∧
      (epochOf connId (newer ++ older) = epochOf connId older →
        secretOf cast connId (newer ++ older) = secretOf cast connId older) := by
  induction newer with
  | nil => exact ⟨Nat.le_refl _, fun _ => rfl⟩
  | cons event rest ih =>
      obtain ⟨below, same⟩ := ih
      cases told : event.of? connId with
      | none =>
          simp only [List.cons_append, epochOf, secretOf, told]
          exact ⟨below, same⟩
      | some event =>
          cases event with
          | rekeyed secret =>
              simp only [List.cons_append, epochOf, secretOf, told]
              exact ⟨by omega, fun impossible => by omega⟩
          | _ =>
              simp only [List.cons_append, epochOf, secretOf, told]
              exact ⟨below, same⟩

theorem secretOf_eq {first second later : List (AssemblyEvent Secret)}
    (split : history = newer ++ first) (other : history = later ++ second)
    (epochs : epochOf connId first = epochOf connId second) :
    secretOf cast connId first = secretOf cast connId second := by
  rcases List.append_eq_append_iff.mp (split.symm.trans other) with
    ⟨middle, _, rfl⟩ | ⟨middle, _, rfl⟩
  · exact (epochOf_append middle second).2 epochs
  · exact ((epochOf_append middle first).2 epochs.symm).symm

/-- The keys that the hub knows are keys of the clients, with their numbers. -/
theorem AssemblyRun.hubKeys (run : AssemblyRun libraries hub cast history assembly)
    {later events : List Event} (split : hubEvents history = later ++ events)
    {participant : ParticipantState}
    (found : (roomAfter hub events).participants.get? connId = some participant)
    (anonymous : participant.anonymousMode = true) :
    participant.participantHandle = some (cast.handle connId) ∧
      ∃ newer older, history = newer ++ older ∧
        participant.x25519PubkeyHex =
          some (hexEncode (libraries.publicKey (secretOf cast connId older))) ∧
        participant.x25519Epoch = epochOf connId older := by
  have hubRun := run.hubRun
  have trace : Trace hub events := (split ▸ hubRun.trace.1).suffix later
  have wrote : ∀ event ∈ events, ∀ frame, event.op.movesKeys = true →
      event.op.handles = some frame → Wrote libraries cast event.connId history frame := by
    intro event member frame moves handles
    have happened : event ∈ hubEvents history := by
      rw [split]
      exact List.mem_append_right later member
    obtain ⟨_, _, _, lawful⟩ := hubRun.lawful happened
    exact run.assembled.hub.events event happened (lawful.movesKeys moves) frame handles
  obtain ⟨handle, key, named, keyed, rfl, newer, older, split, rfl, epoch⟩ :=
    @Trace.keyed_by hub events trace (fun id handle => handle = cast.handle id)
      (fun id key epoch => ∃ newer older, history = newer ++ older ∧
        key = hexEncode (libraries.publicKey (secretOf cast id older)) ∧ epoch = epochOf id older)
      (by
        intro event member hello nowMs rosterAtMs op
        cases wrote event member (.anonHello hello) (by rw [op]; rfl) (by rw [op]; rfl) with
        | hello => exact ⟨rfl, history, [], (List.append_nil _).symm, rfl, rfl⟩)
      (by
        intro event member update op
        cases wrote event member (.groupKeyUpdate update) (by rw [op]; rfl) (by rw [op]; rfl) with
        | update split epoch key => exact ⟨_, _, split, key, epoch⟩)
      connId participant found anonymous
  exact ⟨named, newer, older, split, keyed, epoch⟩

end Members

theorem parse_hexEncode {key publicKey : PublicKey}
    (parsed : parseX25519PubkeyHex (hexEncode key) = some publicKey) : publicKey = key := by
  have whole := decodeHexVec_hexEncode key
  unfold decodeHexVec at whole
  unfold parseX25519PubkeyHex decodeHex32 at parsed
  rw [whole] at parsed
  obtain ⟨same, _⟩ := Option.filter_eq_some_iff.mp parsed
  exact (Option.some.inj same).symm

/-- Up to there the recipient is a member that was welcomed, and all that was put into its queue
fitted and was true of the room. -/
structure Attends (hub : HubState) (before : List Event) (recipient : ConnId) : Prop where
  keeps : ∀ event ∈ before, event.keepsRosters hub = true
  delivered : ∀ event ∈ before, ∀ frame, event.op = .trySend recipient (.binary frame) →
    (event.before.channels recipient).accepts = true
  stays : recipient ∈ (sharedAfter hub before).connections
  welcomed : ∃ event ∈ before, event.welcomes recipient = true

section Delivery

variable {Secret : Type} {libraries : ControlLibraries Secret} {hub : HubState} {cast : Cast Secret}
  {history newer older : List (AssemblyEvent Secret)} {assembly : Assembly Secret}

/-- Where a sealed frame that a client works on comes from: the hub has relayed it, after the frames
that the client had read before it. -/
theorem AssemblyRun.relayed (run : AssemblyRun libraries hub cast (newer ++ older) assembly)
    {recipient : ConnId} {enc : EncryptedControlFrame} {waiting : List KaigiFrame}
    (waits : framesRead recipient older ++ .encryptedControl enc :: waiting =
      handed recipient (hubEvents older)) :
    ∃ since relay before, hubEvents (newer ++ older) = since ++ relay :: before ∧
      relay.enqueues recipient = some (.encryptedControl enc) ∧
      acceptedFrames recipient before = framesRead recipient older ∧
      ∃ key peers body, .member relay.connId (.sealed enc key peers body) ∈ newer ++ older := by
  have trace : Trace hub (hubEvents older) := by
    have whole := run.hubRun.trace.1
    rw [hubEvents_append] at whole
    exact whole.suffix _
  have order := (trace.inOrder recipient).conserved
  change writtenTo recipient (hubEvents older) ++ ((sharedAfter hub (hubEvents older)).channels
    recipient).queue = acceptedFor recipient (hubEvents older) at order
  have accepted : acceptedFrames recipient (hubEvents older) = framesRead recipient older ++
      .encryptedControl enc :: (waiting ++ ((sharedAfter hub (hubEvents older)).channels
        recipient).queue.filterMap Message.frame?) := by
    rw [acceptedFrames, ← order, List.filterMap_append]
    change handed recipient (hubEvents older) ++ _ = _
    rw [← waits]
    simp
  obtain ⟨since, relay, before, split, enqueued, read⟩ := exists_enqueues accepted
  have whole : hubEvents (newer ++ older) = (hubEvents newer ++ since) ++ relay :: before := by
    rw [hubEvents_append, split, List.append_assoc]
  have happened : relay ∈ hubEvents (newer ++ older) := by simp [whole]
  have sends := (Event.enqueues_eq_some.mp enqueued).1
  have task := run.hubRun.frame_task happened (by rw [sends]; rfl) fun _ same => by cases same
  refine ⟨_, relay, before, whole, enqueued, read, ?_⟩
  cases run.assembled.hub.events relay happened task (.encryptedControl enc)
    (by rw [sends]; rfl) with
  | sealed happened => exact ⟨_, _, _, happened⟩

/-- Whatever a client of an anonymous room opens or fails to open was relayed to it by the task of
the client that had sealed it. It opens to the line that was sealed, or not at all; and it does
open if the recipient has attended the room until it was relayed, and the sender has sealed it for
the key that the recipient has when it opens it. -/
theorem control_delivered (run : AssemblyRun libraries hub cast history assembly)
    (ideal : libraries.Ideal) {recipient : ConnId} {enc : EncryptedControlFrame}
    {payload : EncryptedRecipientPayload} {secret : Secret}
    {outcome : Option (Except String (List UInt8))}
    (split : history =
      newer ++ .member recipient (.processed enc payload secret outcome) :: older) :
    ∃ since relay before, hubEvents older = since ++ relay :: before ∧
      relay.enqueues recipient = some (.encryptedControl enc) ∧
      (∃ key peers body, .member relay.connId (.sealed enc key peers body) ∈ older) ∧
      ∀ key peers body, .member relay.connId (.sealed enc key peers body) ∈ older →
        (∀ text, outcome = some (.ok text) → text = body.toUTF8.toList) ∧
        (cast.handle relay.connId ≠ cast.handle recipient → Attends hub before recipient →
          peers.get? (cast.handle recipient) = some (libraries.publicKey secret) →
            outcome = some (.ok body.toUTF8.toList)) := by
  obtain ⟨assembled, move, next, past, step⟩ := run.member_earlier split
  have here := past.assembled.members recipient
  cases step with
  | @processed opening found =>
      obtain @⟨later, earlier, frame, waiting, known, within, waits, heard, opens⟩ :=
        here.opening opening found
      cases frame with
      | encryptedControl enc =>
          obtain ⟨payload, listed, rfl⟩ := Option.map_eq_some_iff.mp opens
          have named : payload.recipientHandle = cast.handle recipient := by
            simpa using List.find?_some listed
          have among := List.mem_of_find?_eq_some listed
          subst within
          obtain ⟨since, relay, before, whole, enqueued, read, origin⟩ := past.relayed waits
          refine ⟨since, relay, before, whole, enqueued, origin, fun key peers body sealed => ?_⟩
          obtain ⟨after, start, sealed⟩ := List.append_of_mem sealed
          obtain ⟨sender, epoch, own, nonce, payloads⟩ := past.sealed sealed
          obtain ⟨peerPublic, knows, made⟩ := payloads payload among
          rw [named] at knows made
          simp only [Opening.outcome, here.handle]
          constructor
          · intro text opened
            obtain ⟨senderPublic, _, opened⟩ := Option.map_eq_some_iff.mp opened
            exact decryptFromSender_binds ideal made opened
          · intro others attends addressed
            have other : enc.senderHandle ≠ cast.handle recipient := sender ▸ others
            have relays : relay.op.frame? = some (.encryptedControl enc) := by
              rw [(Event.enqueues_eq_some.mp enqueued).1]
              rfl
            obtain ⟨room, participant, text, publicKey, there, present, anonymous, _, epochs, keyed,
              parsed, holds⟩ := @Run.relay_known hub _ _ _ _ past.hubRun relay enc recipient
                (cast.handle recipient) (fun _ => libraries.publicKey key) whole relays
                attends.keeps attends.delivered attends.stays attends.welcomed other
            have present : (roomAfter hub before).participants.get? relay.connId =
                some participant := by
              rw [roomAfter_of_some there]
              exact present
            have regrouped : hubEvents (later ++ earlier) = (since ++ [relay]) ++ before := by
              rw [whole, List.append_assoc]
              rfl
            obtain ⟨_, newer, older, divided, bound, number⟩ :=
              past.hubKeys regrouped present anonymous
            -- The room has the key that the line was sealed with, for it has the same number.
            have same : secretOf cast relay.connId older = key := by
              rw [own]
              refine secretOf_eq divided (sealed.trans (List.append_cons ..)) ?_
              rw [← number, epochs, epoch]
            rw [keyed] at bound
            cases bound
            rw [same] at parsed
            have knownKey : known.get? enc.senderHandle = some (libraries.publicKey key) := by
              rw [heard _ other, heardBy, ← read, ← peersAfter_readFrames other, holds,
                parse_hexEncode parsed]
            rw [addressed] at knows
            cases knows
            rw [knownKey, Option.map_some, decryptFromSender_sealed ideal made]
      | _ => cases opens

end Delivery

/-! The fox tells the owl "hi". The keys are those that X25519, BLAKE3 and XChaCha20-Poly1305 make
of the secrets of the fox (`true`, thirty-two bytes 0x11) and of the owl (`false`, bytes 0x22). -/

def furPublicKey (fox : Bool) : PublicKey :=
  if fox then
    [0x7b, 0x4e, 0x90, 0x9b, 0xbe, 0x7f, 0xfe, 0x44, 0xc4, 0x65, 0xa2, 0x20, 0x03, 0x7d, 0x60,
    0x8e, 0xe3, 0x58, 0x97, 0xd3, 0x1e, 0xf9, 0x72, 0xf0, 0x7f, 0x74, 0x89, 0x2c, 0xb0, 0xf7,
    0x3f, 0x13]
  else
    [0x0f, 0xaa, 0x68, 0x4e, 0xd2, 0x88, 0x67, 0xb9, 0x7f, 0x4a, 0x6a, 0x2d, 0xee, 0x5d, 0xf8,
    0xce, 0x97, 0x4e, 0x76, 0xb7, 0x01, 0x8e, 0x3f, 0x22, 0xa1, 0xc4, 0xcf, 0x26, 0x78, 0x57,
    0x0f, 0x20]

def foxShared : Vector UInt8 32 :=
  ⟨#[0x98, 0x20, 0x1c, 0x39, 0x57, 0x2b, 0xcd, 0xc6, 0xfe, 0x98, 0xc6, 0x6b, 0x58, 0x5a, 0xf1,
    0xe1, 0x93, 0xf2, 0x19, 0xde, 0x7d, 0x39, 0x97, 0x03, 0x3a, 0x44, 0x89, 0xf6, 0x85, 0x18,
    0x90, 0x6f], rfl⟩

def furShared : Vector UInt8 32 :=
  ⟨#[0x9e, 0x00, 0x40, 0x98, 0xef, 0xc0, 0x91, 0xd4, 0xec, 0x26, 0x63, 0xb4, 0xe9, 0xf5, 0xcf,
    0xd4, 0xd7, 0x06, 0x45, 0x71, 0x69, 0x0b, 0x4b, 0xea, 0x97, 0xab, 0x14, 0x6a, 0xb9, 0xf3,
    0x50, 0x56], rfl⟩

def owlShared : Vector UInt8 32 :=
  ⟨#[0x31, 0xb5, 0x1c, 0xb3, 0xb2, 0xfd, 0x90, 0x1b, 0xce, 0xdb, 0x6b, 0x81, 0x95, 0xbf, 0xf4,
    0x66, 0xc7, 0x70, 0x3d, 0x3e, 0x49, 0x7c, 0xe7, 0xf2, 0xbf, 0xcb, 0x67, 0x4e, 0xbe, 0x61,
    0x27, 0x53], rfl⟩

/-- The key of the fox for itself. -/
def foxKey : Vector UInt8 32 :=
  ⟨#[0x17, 0x67, 0x9a, 0x72, 0x2e, 0x0a, 0xab, 0xb3, 0xc2, 0x3c, 0x11, 0xfc, 0x5a, 0x0c, 0x0a,
    0xda, 0xfd, 0xdb, 0x16, 0x6a, 0xad, 0xcf, 0x59, 0xf7, 0x79, 0xb9, 0x5e, 0x72, 0xc4, 0x07,
    0x91, 0xc2], rfl⟩

/-- The key of the fox for the owl. -/
def furKey : Vector UInt8 32 :=
  ⟨#[0x18, 0xd7, 0x19, 0xff, 0x04, 0x75, 0xad, 0xdf, 0xa4, 0xbf, 0x6c, 0xde, 0x40, 0xe5, 0xaf,
    0xe6, 0x55, 0x20, 0xb6, 0x17, 0x50, 0xce, 0x59, 0x09, 0x6c, 0xdf, 0x46, 0x2a, 0x5c, 0x6a,
    0x8c, 0x55], rfl⟩

def foxCiphertext : List UInt8 :=
  [0x7a, 0xd0, 0xe2, 0x84, 0x2c, 0xb3, 0xd7, 0xff, 0xca, 0x88, 0xfa, 0x65, 0xc4, 0x02, 0x73,
    0xbd, 0xe2, 0x7d, 0xf4, 0x3a, 0xc3, 0xd8, 0x97]

def furCiphertext : List UInt8 :=
  [0x8b, 0xf0, 0xe3, 0x71, 0x66, 0xf0, 0x40, 0xc6, 0x65, 0x42, 0x62, 0xb6, 0x5f, 0xf7, 0x37,
    0xf4, 0xf9, 0xaa, 0x1c, 0x3f, 0xaf, 0x49, 0x0b]

def hiText : List UInt8 :=
  [0x63, 0x68, 0x61, 0x74, 0x3a, 0x68, 0x69]

def encryptFur : Cipher := fun key nonce message data =>
  if nonce = List.replicate 24 0x33 ∧ message = hiText ∧ data = anonControlAad then
    if key = foxKey then some foxCiphertext else if key = furKey then some furCiphertext else none
  else none

def decryptFur : Cipher := fun key nonce ciphertext data =>
  if nonce = List.replicate 24 0x33 ∧ data = anonControlAad ∧
      (key = foxKey ∧ ciphertext = foxCiphertext ∨ key = furKey ∧ ciphertext = furCiphertext) then
    some hiText
  else none

def furLibraries : ControlLibraries Bool where
  diffieHellman fox peer :=
    if peer = furPublicKey fox then if fox then foxShared else owlShared
    else if peer = furPublicKey !fox then furShared
    else Vector.replicate 32 0
  blake3 input :=
    if input = pairwiseKeyInput foxShared "fox" "fox" 1 .chat then foxKey
    else if input = pairwiseKeyInput furShared "fox" "owl" 1 .chat then furKey
    else Vector.replicate 32 0
  publicKey := furPublicKey
  encrypt := encryptFur
  decrypt := decryptFur

theorem idealFur : furLibraries.Ideal where
  opens := by
    intro key nonce message data ciphertext sealed
    change encryptFur key nonce message data = some ciphertext at sealed
    change decryptFur key nonce ciphertext data = some message
    unfold encryptFur at sealed
    split at sealed
    · next same =>
        obtain ⟨rfl, rfl, rfl⟩ := same
        split at sealed
        · next fox =>
            cases sealed
            exact if_pos ⟨rfl, rfl, .inl ⟨fox, rfl⟩⟩
        · split at sealed
          · next owl =>
              cases sealed
              exact if_pos ⟨rfl, rfl, .inr ⟨owl, rfl⟩⟩
          · cases sealed
    · cases sealed
  binds := by
    intro key nonce message data ciphertext otherKey otherNonce otherData opened sealed decrypted
    change encryptFur key nonce message data = some ciphertext at sealed
    change decryptFur otherKey otherNonce ciphertext otherData = some opened at decrypted
    have different : foxCiphertext ≠ furCiphertext := by decide
    unfold encryptFur at sealed
    unfold decryptFur at decrypted
    split at decrypted
    · next opens =>
        obtain ⟨rfl, rfl, keys⟩ := opens
        split at sealed
        · next same =>
            obtain ⟨rfl, rfl, rfl⟩ := same
            refine ⟨?_, rfl, rfl⟩
            split at sealed
            · next fox =>
                cases sealed
                rcases keys with ⟨own, _⟩ | ⟨_, same⟩
                · rw [own, fox]
                · exact absurd same different
            · split at sealed
              · next owl =>
                  cases sealed
                  rcases keys with ⟨_, same⟩ | ⟨own, _⟩
                  · exact absurd same.symm different
                  · rw [own, owl]
              · cases sealed
        · cases sealed
    · cases decrypted
  agrees := by
    intro first second
    cases first <;> cases second <;> decide

def furCast : Cast Bool where
  handle connId := if connId = 1 then "fox" else "owl"
  secret connId := connId = 1

def furHello (connId : ConnId) : KaigiFrame :=
  .anonHello {
    protocolVersion := protocolVersion
    participantHandle := furCast.handle connId
    x25519PubkeyHex := hexEncode (furPublicKey (furCast.secret connId)) }

def furSealed : KaigiFrame :=
  .encryptedControl {
    sentAtMs := 5
    senderHandle := "fox"
    epoch := 1
    kind := .chat
    payloads := [⟨"fox", hexEncode (List.replicate 24 0x33), hexEncode foxCiphertext⟩,
      ⟨"owl", hexEncode (List.replicate 24 0x33), hexEncode furCiphertext⟩] }

def furHub : HubState :=
  scriptedHub [furHello 1, furHello 2, furSealed]

/-- The hub hands the next messages to a client, which reads them. -/
def hears (connId : ConnId) (messages : Nat) : List (AssemblyMove Bool) :=
  List.replicate messages (.hub (.deliver connId)) ++
    List.replicate messages (.member connId .read)

def furScript : List (AssemblyMove Bool) :=
  [.hub (.connect 1 0), .hub (.connect 2 0)] ++ (sendsFrame 1 0 1 14).map .hub ++
    (sendsFrame 2 1 2 14).map .hub ++ hears 1 5 ++
    [.member 1 (.send 5 "hi" ["fox", "owl"] fun _ => Vector.replicate 24 0x33)] ++
    (sendsFrame 1 2 3 7).map .hub ++ hears 2 6 ++ [.member 2 .openPayload]

deriving instance DecidableEq for AnonHelloFrame, EncryptedRecipientPayload, EncryptedControlFrame

def sameFrame : KaigiFrame → KaigiFrame → Bool
  | .anonHello first, .anonHello second => first == second
  | .encryptedControl first, .encryptedControl second => first == second
  | _, _ => false

theorem eq_of_sameFrame {first second : KaigiFrame} (same : sameFrame first second = true) :
    first = second := by
  unfold sameFrame at same
  split at same
  · rw [beq_iff_eq.mp same]
  · rw [beq_iff_eq.mp same]
  · cases same

def furChecks (assembly : Assembly Bool) : AssemblyMove Bool → Bool
  | .hub move => (assembly.system.decodes furHub move).all fun entry =>
      (assembly.members entry.1).outbox.head?.any (sameFrame · entry.2)
  | .member _ (.rekey _) => false
  | .member _ _ => true

theorem allowed_of_furChecks {assembly : Assembly Bool} {move : AssemblyMove Bool}
    (checks : furChecks assembly move = true) : assembly.Allowed furHub move := by
  cases move with
  | hub move =>
      intro connId frame decoded
      simp only [furChecks, decoded, Option.all_some] at checks
      obtain ⟨first, head, same⟩ := (Option.any_eq_true ..).mp checks
      rw [head, eq_of_sameFrame same]
  | member connId move =>
      cases move with
      | rekey => cases checks
      | _ => trivial

/-- Whenever the owl is sent a sealed frame, it has attended the room. -/
def owlAttends (before : List Event) (event : Event) : Bool :=
  match event.enqueues 2 with
  | some (.encryptedControl _) =>
      (before.all fun earlier => earlier.keepsRosters furHub &&
        match earlier.op with
        | .trySend target (.binary _) => target != 2 || (earlier.before.channels 2).accepts
        | _ => true) &&
      event.before.connections.contains 2 && before.any (·.welcomes 2)
  | _ => true

theorem attends_of_owlAttends {before : List Event} {event : Event} {enc : EncryptedControlFrame}
    (same : event.before = sharedAfter furHub before)
    (enqueued : event.enqueues 2 = some (.encryptedControl enc))
    (attends : owlAttends before event = true) : Attends furHub before 2 := by
  simp only [owlAttends, enqueued, Bool.and_eq_true, List.all_eq_true, List.any_eq_true] at attends
  obtain ⟨⟨kept, stays⟩, welcomed⟩ := attends
  refine ⟨fun earlier member => (kept earlier member).1, ?_, ?_, welcomed⟩
  · intro earlier member frame sends
    have accepts := (kept earlier member).2
    rw [sends] at accepts
    simpa using accepts
  · rw [← same]
    exact List.contains_iff_mem.mp stays

/-- The owl has opened something, and whatever was sealed for it was sealed for its key. -/
def owlOpens : List (AssemblyEvent Bool) → Bool
  | .member connId (.processed _ _ secret _) :: older =>
      connId == 2 && !secret && (older.all fun event =>
        match event with
        | .member sender (.sealed _ _ peers _) =>
            sender == 1 && peers.get? "owl" == some (furPublicKey false)
        | _ => true) &&
      everyEvent owlAttends (hubEvents older)
  | _ => false

theorem control_delivered_script :
    ∃ history assembly, AssemblyRun furLibraries furHub furCast history assembly ∧
      ∃ enc payload secret older sender key peers body,
        history = .member 2 (.processed enc payload secret (some (.ok body.toUTF8.toList))) ::
          older ∧ .member sender (.sealed enc key peers body) ∈ older := by
  have plays : ((assemblyMachine furLibraries furHub furCast).executeWhere furChecks furScript []
      (assemblyMachine furLibraries furHub furCast).initial).any
        (fun result => owlOpens result.1) = true := by
    decide +kernel
  obtain ⟨⟨history, assembly⟩, executed, opens⟩ := (Option.any_eq_true ..).mp plays
  have run : AssemblyRun furLibraries furHub furCast history assembly :=
    Machine.RunWhere.execute (fun _ _ _ (checks : furChecks _ _ = true) =>
      allowed_of_furChecks checks) .initial executed
  dsimp only at opens
  unfold owlOpens at opens
  split at opens
  · next connId enc payload secret outcome older =>
      simp only [Bool.and_eq_true, beq_iff_eq, Bool.not_eq_true', List.all_eq_true] at opens
      obtain ⟨⟨⟨rfl, rfl⟩, addressed⟩, attends⟩ := opens
      obtain ⟨since, relay, before, whole, enqueued, ⟨key, peers, body, sealed⟩, opened⟩ :=
        control_delivered run idealFur (List.nil_append _).symm
      have told := addressed _ sealed
      simp only [Bool.and_eq_true, beq_iff_eq] at told
      have trace := run.hubRun.trace.1
      change Trace furHub (hubEvents older) at trace
      rw [whole] at trace
      obtain ⟨_, same, _⟩ := trace.lawful
      have attended := attends_of_owlAttends same enqueued
        (everyEvent_iff.mp attends since relay before whole)
      have different : furCast.handle relay.connId ≠ furCast.handle 2 := by
        rw [told.1]
        decide
      have outcome := (opened key peers body sealed).2 different attended told.2
      subst outcome
      exact ⟨_, assembly, run, enc, payload, false, older, relay.connId, key, peers, body, rfl,
        sealed⟩
  · cases opens

end Kaigi.Hub
