import Kaigi.Hub.Origins
import Kaigi.Hub.Scripts

/-!
# Identities

Participant ids are unique in transparent rooms and handles in anonymous ones,
and nobody changes its own after joining.
-/

set_option autoImplicit false

namespace Kaigi.Hub

open Collections Wire Interleaving Authority

/-- Joined and anonymous. -/
def ParticipantState.isAnonymous (participant : ParticipantState) : Bool :=
  participant.anonymousMode && participant.helloSeen

/-- The number of anonymous participants of a room. -/
def activeAnonymous (room : RoomState) : Nat :=
  (room.participants.values.filter (·.isAnonymous)).length

/-- The identities in a room. -/
structure Identified (hub : HubState) (room : RoomState) : Prop where
  ids : room.anonymousMode = false → ∀ connId other participant current,
    room.participants.get? connId = some participant →
    room.participants.get? other = some current →
    (participant.helloSeen = true ∨ participant.waitingRoomPending = true) →
    (current.helloSeen = true ∨ current.waitingRoomPending = true) →
    participant.participantId = current.participantId → connId = other
  handles : room.anonymousMode = true → ∀ connId other participant current,
    room.participants.get? connId = some participant →
    room.participants.get? other = some current →
    participant.helloSeen = true → current.helloSeen = true →
    participant.participantHandle = current.participantHandle → connId = other
  capacity : activeAnonymous room ≤ hub.anonMaxParticipants

/-! ### Handles -/

/-- An anonymous hello that is admitted asks for a handle that no other anonymous
connection has and that is not another one than its own. -/
theorem anonHelloAdmits_handle {hub : HubState} {room : RoomState} {connId : ConnId}
    {hello : AnonHelloFrame} (admits : anonHelloAdmits hub room connId hello = true) :
    (∀ other participant, room.participants.get? other = some participant →
      participant.anonymousMode = true →
      participant.participantHandle = some hello.participantHandle → other = connId) ∧
    ∀ participant handle, room.participants.get? connId = some participant →
      participant.participantHandle = some handle → handle = hello.participantHandle := by
  unfold anonHelloAdmits at admits
  simp only [Bool.and_eq_true, Option.isNone_iff_eq_none] at admits
  obtain ⟨⟨valid, _⟩, _⟩ := admits
  unfold validateAnonParticipantHandle at valid
  rw [Option.or_eq_none_iff] at valid
  have valid := valid.2
  split at valid
  · cases valid
  · next unused =>
      split at valid
      · cases valid
      · next same =>
          refine ⟨fun other participant found anonymous handle => ?_,
            fun participant handle found known => ?_⟩
          · by_contra different
            refine unused (List.any_eq_true.mpr ⟨(other, participant),
              HashMap.mem_iter.mpr found, ?_⟩)
            simp [different, anonymous, handle]
          · by_contra different
            refine same ?_
            simp [found, known, different]

theorem anonHelloAdmits_capacity {hub : HubState} {room : RoomState} {connId : ConnId}
    {hello : AnonHelloFrame} {participant : ParticipantState}
    (admits : anonHelloAdmits hub room connId hello = true)
    (found : room.participants.get? connId = some participant)
    (enters : participant.isAnonymous = false) :
    activeAnonymous room < hub.anonMaxParticipants := by
  unfold anonHelloAdmits at admits
  simp only [Bool.and_eq_true, Option.isNone_iff_eq_none] at admits
  obtain ⟨⟨_, valid⟩, _⟩ := admits
  unfold validateAnonymousRoomCapacity at valid
  rw [found, Option.any_some] at valid
  change (if participant.isAnonymous = true then none else _) = none at valid
  rw [if_neg (by simp [enters])] at valid
  dsimp only at valid
  split at valid
  · cases valid
  · next below => exact Nat.lt_of_not_le below

/-- Whoever is anonymous under a handle was so before, or has just asked for it. -/
theorem Origin.handle {hub : HubState} {room : RoomState} {actor connId : ConnId} {op : Operation}
    {new : ParticipantState} {handle : String} (origin : Origin hub room actor op connId new)
    (anonymous : new.anonymousMode = true) (named : new.participantHandle = some handle) :
    (∃ old, room.participants.get? connId = some old ∧ old.anonymousMode = true ∧
      old.participantHandle = some handle) ∨
    ∃ hello, actor = connId ∧ anonHelloAdmits hub room connId hello = true ∧
      hello.participantHandle = handle := by
  cases origin with
  | connects _ _ fresh =>
      rw [fresh] at named
      cases named
  | @billed old was same =>
      rw [same] at anonymous named
      exact .inl ⟨old, was, anonymous, named⟩
  | @rewritten old was steps =>
      refine .inl ⟨old, was, ?_⟩
      induction steps with
      | refl => exact ⟨anonymous, named⟩
      | tail _ rewrites ih =>
          cases rewrites with
          | hello => cases anonymous
          | rekeyed | escrowed | state | track | silenced | admitted => exact ih anonymous named
  | @anonHello hello _ _ old _ same was admits accepted =>
      refine .inr ⟨hello, same, admits, ?_⟩
      unfold applyAnonHelloState at accepted
      dsimp only at accepted
      split at accepted
      · cases accepted
      · cases accepted
        exact Option.some.inj named

/-- No two anonymous connections of the room have one handle. -/
def UniqueHandles (room : RoomState) : Prop :=
  ∀ connId other participant current handle,
    room.participants.get? connId = some participant →
    room.participants.get? other = some current →
    participant.anonymousMode = true → current.anonymousMode = true →
    participant.participantHandle = some handle → current.participantHandle = some handle →
    connId = other

theorem UniqueHandles.event {hub : HubState} {event : Event} {after : RoomState}
    (unique : UniqueHandles (event.before.opened hub))
    (left : (event.after hub).room = some after) :
    UniqueHandles after := by
  intro connId other participant current handle found otherFound anonymous otherAnonymous named
    otherNamed
  rcases (Event.origin left found).handle anonymous named with
    ⟨old, was, wasAnonymous, wasNamed⟩ | ⟨hello, own, admits, rfl⟩
  · rcases (Event.origin left otherFound).handle otherAnonymous otherNamed with
      ⟨otherOld, otherWas, otherWasAnonymous, otherWasNamed⟩ | ⟨hello, own, admits, rfl⟩
    · exact unique connId other old otherOld handle was otherWas wasAnonymous otherWasAnonymous
        wasNamed otherWasNamed
    · exact (anonHelloAdmits_handle admits).1 connId old was wasAnonymous wasNamed
  · rcases (Event.origin left otherFound).handle otherAnonymous otherNamed with
      ⟨otherOld, otherWas, otherWasAnonymous, otherWasNamed⟩ | ⟨_, otherOwn, _, _⟩
    · exact ((anonHelloAdmits_handle admits).1 other otherOld otherWas otherWasAnonymous
        otherWasNamed).symm
    · exact own.symm.trans otherOwn

theorem Trace.uniqueHandles {hub : HubState} {history : List Event} (trace : Trace hub history) :
    UniqueHandles (roomAfter hub history) := by
  refine Trace.room (fun _ room => UniqueHandles room) ?_ ?_ trace
  · intro _ _ _ _ _ _ found
    simp [emptyRoom] at found
  · exact fun _ _ _ _ _ _ unique left => unique.event left

/-! ### Capacity -/

/-- Whoever is anonymous after an event was so before, or its own anonymous hello
was admitted. -/
theorem Lawful.anonymous {hub : HubState} {earlier : List Event} {event : Event}
    {after : RoomState} (lawful : Lawful hub earlier event) (separated : event.before.Separated)
    (left : (event.after hub).room = some after) {connId : ConnId} {new : ParticipantState}
    (found : after.participants.get? connId = some new) (anonymous : new.isAnonymous = true) :
    ∃ old, (event.before.opened hub).participants.get? connId = some old ∧
      (old.isAnonymous = true ∨ event.connId = connId ∧
        ∃ hello, anonHelloAdmits hub (event.before.opened hub) connId hello = true) := by
  have origin := Event.origin left found
  have became := (lawful.step left).became (members_groupOf found)
  have admission := lawful.transparent
  obtain ⟨actor, task, op, state⟩ := event
  dsimp only at separated origin became admission ⊢
  obtain ⟨hidden, joined⟩ := Bool.and_eq_true_iff.mp anonymous
  have hidden : (memberOf new).anonymous = true := hidden
  have joined : (memberOf new).joined = true := joined
  have same : ∀ {old : ParticipantState}, memberOf old = memberOf new → old.isAnonymous = true := by
    intro old same
    change ((memberOf old).anonymous && (memberOf old).joined) = true
    rw [same, hidden, joined]
    rfl
  cases step : memberOf new with
  | mk id isJoined waiting isAnonymous named =>
  rw [step] at became hidden joined
  cases became with
  | kept present =>
      obtain ⟨old, was, view⟩ := members_groupOf_eq_some.mp present
      exact ⟨old, was, .inl (same (view.trans step.symm))⟩
  | entered _ _ notJoined => rw [show isJoined = true from joined] at notJoined; cases notJoined
  | waits | joins => cases hidden
  | turnsAnonymous request =>
      cases origin with
      | connects connects => rw [connects] at request; cases request
      | @billed old was billed =>
          refine ⟨old, was, .inl (same ?_)⟩
          rw [billed]
          rfl
      | @rewritten old was steps =>
          cases steps with
          | refl => exact ⟨_, was, .inl anonymous⟩
          | tail _ rewrites =>
              -- An anonymous hello rewrites nothing in another way.
              have requests := op.requests (state.opened hub) actor
              rw [request] at requests
              cases requests
              cases rewrites
      | @anonHello hello _ _ old _ own was admits => exact ⟨old, was, .inr ⟨own, hello, admits⟩⟩
  | @admitted sender old request present waiting senderJoined =>
      obtain ⟨member, known, senderIsJoined⟩ := senderJoined
      have plain := transparentAdmission_action admission sender connId request member known
      have apart : ModeSeparated (groupOf (state.opened hub)) := separated.opened
      cases mode : (groupOf (state.opened hub)).anonymous with
      | true =>
          rw [(apart.anonymous mode sender member known senderIsJoined).1] at plain
          cases plain
      | false =>
          rw [apart.transparent mode connId old present] at hidden
          cases hidden

theorem Lawful.activeAnonymous_le {hub : HubState} {earlier : List Event} {event : Event}
    {after : RoomState} (lawful : Lawful hub earlier event) (separated : event.before.Separated)
    (below : activeAnonymous (event.before.opened hub) ≤ hub.anonMaxParticipants)
    (left : (event.after hub).room = some after) :
    activeAnonymous after ≤ hub.anonMaxParticipants := by
  by_cases enters : ∃ old hello,
      (event.before.opened hub).participants.get? event.connId = some old ∧
        old.isAnonymous = false ∧
          anonHelloAdmits hub (event.before.opened hub) event.connId hello = true
  · obtain ⟨old, hello, was, notYet, admits⟩ := enters
    refine (HashMap.length_filter_values_succ event.connId
      fun connId new found anonymous other => ?_).trans (anonHelloAdmits_capacity admits was notYet)
    obtain ⟨old, was, still | ⟨same, _⟩⟩ := lawful.anonymous separated left found anonymous
    · exact ⟨old, was, still⟩
    · exact absurd same.symm other
  · refine (HashMap.length_filter_values_mono fun connId new found anonymous => ?_).trans below
    obtain ⟨old, was, still | ⟨rfl, hello, admits⟩⟩ :=
      lawful.anonymous separated left found anonymous
    · exact ⟨old, was, still⟩
    · cases still : old.isAnonymous with
      | true => exact ⟨old, was, still⟩
      | false => exact absurd ⟨old, hello, was, still, admits⟩ enters

theorem Trace.activeAnonymous_le {hub : HubState} {history : List Event}
    (trace : Trace hub history) :
    activeAnonymous (roomAfter hub history) ≤ hub.anonMaxParticipants := by
  refine Trace.room (fun _ room => activeAnonymous room ≤ hub.anonMaxParticipants) ?_ ?_ trace
  · exact fun _ => Nat.zero_le _
  · exact fun _ _ _ past lawful same below left =>
      lawful.activeAnonymous_le (same ▸ past.separated) below left

/-! ### Constancy -/

theorem validateJoinAllowed_same {room : RoomState} {connId : ConnId} {participantId : String}
    {participant : ParticipantState}
    (allowed : validateJoinAllowed room connId participantId = none)
    (found : room.participants.get? connId = some participant)
    (joined : participant.helloSeen = true) : participant.participantId = participantId := by
  unfold validateJoinAllowed at allowed
  split at allowed
  · cases allowed
  · next same =>
      by_contra different
      exact same (by simp [found, joined, different])

/-- Whoever has joined keeps its participant id. -/
theorem Origin.participantId {hub : HubState} {room : RoomState} {actor connId : ConnId}
    {op : Operation} {old new : ParticipantState} (origin : Origin hub room actor op connId new)
    (fresh : ∀ connectedAtMs, op = .connect connectedAtMs → room.participants.get? actor = none)
    (was : room.participants.get? connId = some old) (joined : old.helloSeen = true) :
    new.participantId = old.participantId := by
  cases origin with
  | connects connects own =>
      subst own
      rw [fresh _ connects] at was
      cases was
  | billed known billed =>
      rw [was] at known
      cases known
      rw [billed]
  | rewritten known steps =>
      rw [was] at known
      cases known
      induction steps with
      | refl => rfl
      | tail _ rewrites ih =>
          cases rewrites with
          | hello _ _ allowed => exact (validateJoinAllowed_same allowed was joined).symm
          | rekeyed | escrowed | state | track | silenced | admitted => exact ih
  | anonHello _ _ known _ accepted =>
      rw [was] at known
      cases known
      exact congrArg Member.id (applyAnonHelloState_ok accepted)

/-- Whoever has a handle in an anonymous room keeps it. -/
theorem Origin.keepsHandle {hub : HubState} {room : RoomState} {actor connId : ConnId}
    {op : Operation} {old new : ParticipantState} (origin : Origin hub room actor op connId new)
    (fresh : ∀ connectedAtMs, op = .connect connectedAtMs → room.participants.get? actor = none)
    (anonymous : room.anonymousMode = true) (was : room.participants.get? connId = some old)
    (named : old.participantHandle.isSome = true) :
    new.participantHandle = old.participantHandle := by
  cases origin with
  | connects connects own =>
      subst own
      rw [fresh _ connects] at was
      cases was
  | billed known billed =>
      rw [was] at known
      cases known
      rw [billed]
  | rewritten known steps =>
      rw [was] at known
      cases known
      induction steps with
      | refl => rfl
      | tail _ rewrites ih =>
          cases rewrites with
          | hello _ transparent => rw [anonymous] at transparent; cases transparent
          | rekeyed | escrowed | state | track | silenced | admitted => exact ih
  | anonHello _ _ known admits accepted =>
      rw [was] at known
      cases known
      obtain ⟨handle, has⟩ := Option.isSome_iff_exists.mp named
      rw [has, (anonHelloAdmits_handle admits).2 old handle was has]
      unfold applyAnonHelloState at accepted
      dsimp only at accepted
      split at accepted
      · cases accepted
      · cases accepted
        rfl

/-- The identity of a participant that had joined as `old` in the room `first`. -/
structure SameIdentity (first : RoomState) (old new : ParticipantState) : Prop where
  participantId : new.participantId = old.participantId
  handle : first.anonymousMode = true → new.participantHandle = old.participantHandle

theorem Trace.sameIdentity {hub : HubState} {later earlier : List Event}
    (trace : Trace hub (later ++ earlier)) {first second : RoomState}
    (was : (sharedAfter hub earlier).room = some first)
    (found : (sharedAfter hub (later ++ earlier)).room = some second) {connId : ConnId}
    {old new : ParticipantState} (present : first.participants.get? connId = some old)
    (joined : old.helloSeen = true) (stays : second.participants.get? connId = some new) :
    SameIdentity first old new := by
  refine (trace.staying (fun _ room participant => participant.helloSeen = true ∧
    (first.anonymousMode = true → room.anonymousMode = true) ∧
      SameIdentity first old participant) ?_ ?_ was (by simp [present]) found stays).2.2
  · intro room participant known member
    rw [was] at known
    cases known
    rw [present] at member
    cases member
    exact ⟨joined, id, rfl, fun _ => rfl⟩
  · intro rest event room after middle current past lawful same before known left remains held
    obtain ⟨isJoined, anonymous, identity⟩ := held
    have step := lawful.step left
    have origin := Event.origin left remains
    have fresh := lawful.fresh
    rw [HubRoom.opened_of_some before] at step origin fresh
    refine ⟨step.joined ⟨_, members_groupOf known, isJoined⟩ (members_groupOf remains),
      fun mode => step.anonymous (anonymous mode), ?_, fun mode => ?_⟩
    · exact (origin.participantId fresh known isJoined).trans identity.participantId
    · have separated : ModeSeparated (groupOf room) := past.separated room (same ▸ before)
      have named := (separated.anonymous (anonymous mode) connId _ (members_groupOf known)
        isJoined).2
      exact (origin.keepsHandle fresh (anonymous mode) known named).trans (identity.handle mode)

/-- In every run the identities of the room are unique, and nobody that has
joined changes its own. -/
theorem identities_unique {hub : HubState} {history : List Event} {system : System}
    (run : Run hub history system) :
    (∀ room, system.shared.room = some room → Identified hub room) ∧
    ∀ later earlier, history = later ++ earlier → ∀ first second,
      (sharedAfter hub earlier).room = some first → system.shared.room = some second →
      ∀ connId old new, first.participants.get? connId = some old → old.helloSeen = true →
        second.participants.get? connId = some new → SameIdentity first old new := by
  obtain ⟨trace, shared⟩ := run.trace
  constructor
  · intro room found
    rw [shared] at found
    have separated := trace.separated room found
    have unique := trace.uniqueHandles
    have below := trace.activeAnonymous_le
    rw [roomAfter_of_some found] at unique below
    refine ⟨fun transparent connId other participant current known otherKnown active otherActive
      same => ?_, fun anonymous connId other participant current known otherKnown joined
      otherJoined same => ?_, below⟩
    · exact (trace.orderly found transparent).unique connId other participant.participantId
        ⟨_, members_groupOf known, active, rfl⟩
        ⟨_, members_groupOf otherKnown, otherActive, same.symm⟩
    · obtain ⟨hidden, named⟩ :=
        separated.anonymous anonymous connId _ (members_groupOf known) joined
      obtain ⟨otherHidden, _⟩ :=
        separated.anonymous anonymous other _ (members_groupOf otherKnown) otherJoined
      obtain ⟨handle, has⟩ := Option.isSome_iff_exists.mp named
      exact unique connId other participant current handle known otherKnown hidden otherHidden
        has (same ▸ has)
  · rintro later earlier rfl first second was found connId old new present joined stays
    rw [shared] at found
    exact trace.sameIdentity was found present joined stays

def anonHelloAs (participantHandle : String) : KaigiFrame :=
  .anonHello {
    protocolVersion := protocolVersion
    participantHandle := participantHandle
    x25519PubkeyHex := "2ab2dd3252b63515919e5a0db9207b1c7395922325c36bb2ef7bc74e4b708119" }

def handlesHub : HubState :=
  scriptedHub [anonHelloAs "fox", anonHelloAs "owl"]

/-- Two connections join anonymously. -/
def handlesScript : List Move :=
  [.connect 1 0, .connect 2 0] ++ sendsFrame 1 0 1 14 ++ sendsFrame 2 1 2 14

theorem identities_unique_script :
    ∃ history system room fox owl, Run handlesHub history system ∧
      system.shared.room = some room ∧ room.participants.get? 1 = some fox ∧
        room.participants.get? 2 = some owl ∧ fox.helloSeen = true ∧ owl.helloSeen = true ∧
          fox.participantHandle ≠ owl.participantHandle := by
  obtain ⟨history, system, room, run, found, checks⟩ := Run.of_played_room
    handlesHub handlesScript
    (fun _ room => room.anonymousMode && (room.participants.get? 1).any (·.helloSeen) &&
      (room.participants.get? 2).any (·.helloSeen)) (by decide +kernel)
  simp only [Bool.and_eq_true, Option.any_eq_true] at checks
  obtain ⟨⟨anonymous, fox, foxFound, foxJoined⟩, owl, owlFound, owlJoined⟩ := checks
  have identified := (identities_unique run).1 room found
  refine ⟨history, system, room, fox, owl, run, found, foxFound, owlFound, foxJoined, owlJoined,
    fun same => ?_⟩
  have impossible :=
    identified.handles anonymous 1 2 fox owl foxFound owlFound foxJoined owlJoined same
  cases impossible

end Kaigi.Hub
