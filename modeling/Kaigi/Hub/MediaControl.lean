import Kaigi.Hub.Origins
import Kaigi.Hub.Scripts

/-!
# Who switches media on

Microphone, video and screen share are off for whoever has not joined, and nobody enters
with one of them on. Afterwards others can only switch them off.
-/

set_option autoImplicit false

namespace Kaigi.Hub

open Collections Wire Interleaving

/-- Microphone, video and screen share are off. -/
structure ParticipantState.MediaOff (participant : ParticipantState) : Prop where
  mic : participant.micEnabled = false
  video : participant.videoEnabled = false
  share : participant.screenShareEnabled = false

/-- Nothing is switched on from `old` to `new`. -/
structure NothingOn (old new : ParticipantState) : Prop where
  mic : new.micEnabled = true → old.micEnabled = true
  video : new.videoEnabled = true → old.videoEnabled = true
  share : new.screenShareEnabled = true → old.screenShareEnabled = true

theorem NothingOn.off {old new : ParticipantState} (nothing : NothingOn old new)
    (off : old.MediaOff) : new.MediaOff := by
  refine ⟨?_, ?_, ?_⟩
  · exact Bool.eq_false_of_not_eq_true fun on => absurd (nothing.mic on) (by simp [off.mic])
  · exact Bool.eq_false_of_not_eq_true fun on => absurd (nothing.video on) (by simp [off.video])
  · exact Bool.eq_false_of_not_eq_true fun on => absurd (nothing.share on) (by simp [off.share])

/-- Nothing is switched on, and nobody ceases to be joined with something on. -/
structure Subdued (old new : ParticipantState) : Prop extends NothingOn old new where
  unjoined : new.helloSeen = false → new.MediaOff ∨ old.helloSeen = false

theorem Subdued.refl (participant : ParticipantState) : Subdued participant participant :=
  ⟨⟨id, id, id⟩, .inr⟩

theorem Subdued.of_off {old new : ParticipantState} (off : new.MediaOff) : Subdued old new := by
  refine ⟨⟨fun on => ?_, fun on => ?_, fun on => ?_⟩, fun _ => .inl off⟩
  · exact absurd on (by simp [off.mic])
  · exact absurd on (by simp [off.video])
  · exact absurd on (by simp [off.share])

theorem Subdued.trans {first second third : ParticipantState} (before : Subdued first second)
    (after : Subdued second third) : Subdued first third := by
  refine ⟨⟨before.mic ∘ after.mic, before.video ∘ after.video, before.share ∘ after.share⟩, ?_⟩
  intro unjoined
  rcases after.unjoined unjoined with off | unjoined
  · exact .inl off
  · exact (before.unjoined unjoined).imp_left after.toNothingOn.off

/-- The critical sections of the two frames with which a participant sets its media. -/
def Operation.setsMedia : Operation → Bool
  | .participantState _ _ | .mediaTrackState _ _ => true
  | _ => false

/-- The connection has set its own media, joined before and after. -/
structure SetsOwnMedia (actor connId : ConnId) (op : Operation) (old new : ParticipantState) :
    Prop where
  sets : op.setsMedia = true
  own : actor = connId
  joined : old.helloSeen = true
  stays : new.helloSeen = true

/-- The hello frames that a handler acts on have all media off. -/
def Operation.Silent (op : Operation) : Prop :=
  ∀ frame snapshotAtMs deltaAtMs, op = .hello frame snapshotAtMs deltaAtMs →
    frame.micEnabled = false ∧ frame.videoEnabled = false ∧ frame.screenShareEnabled = false

/-! ### One event -/

theorem Lawful.silent {hub : HubState} {earlier : List Event} {event : Event}
    (lawful : Lawful hub earlier event) : event.op.Silent := by
  intro frame snapshotAtMs deltaAtMs request
  rcases lawful.permitted with ⟨_, op⟩ | ⟨role, _, permitted, _⟩ | op | op | ⟨_, _, op⟩
  · rw [request] at op
    cases op
  · rw [request] at permitted
    cases role with
    | serving =>
        simp only [Role.permits, Bool.and_eq_true, Bool.not_eq_true'] at permitted
        exact ⟨permitted.1.1, permitted.1.2, permitted.2⟩
    | leaving | charging => cases permitted
  all_goals
    rw [request] at op
    cases op

section Edits

variable {room : RoomState} {actor connId : ConnId} {op : Operation} {old new : ParticipantState}

theorem Rewrites.media (silent : op.Silent) (rewrites : Rewrites room actor op connId old new) :
    op.setsMedia = false ∧ Subdued old new ∨ SetsOwnMedia actor connId op old new := by
  cases rewrites with
  | @hello frame =>
      obtain ⟨mic, video, share⟩ := silent frame _ _ rfl
      exact .inl ⟨rfl, .of_off ⟨mic, video, share⟩⟩
  | rekeyed | escrowed => exact .inl ⟨rfl, ⟨id, id, id⟩, .inr⟩
  | state joined _ => exact .inr ⟨rfl, rfl, joined, joined⟩
  | track joined _ _ => exact .inr ⟨rfl, rfl, joined, joined⟩
  | silenced mic video share => exact .inl ⟨rfl, ⟨mic, video, share⟩, .inr⟩
  | admitted => exact .inl ⟨rfl, .of_off ⟨rfl, rfl, rfl⟩⟩

/-- All edits of one operation together switch nothing on, unless the connection sets its
own media. -/
theorem Rewrites.media_steps (silent : op.Silent)
    (steps : Relation.ReflTransGen (Rewrites room actor op connId) old new) :
    Subdued old new ∨ SetsOwnMedia actor connId op old new := by
  cases sets : op.setsMedia with
  | true =>
      -- No edit of such an operation changes whether the connection has joined.
      suffices same : old = new ∨ SetsOwnMedia actor connId op old new by
        rcases same with rfl | sets
        · exact .inl (.refl old)
        · exact .inr sets
      induction steps with
      | refl => exact .inl rfl
      | tail _ rewrites ih =>
          rcases rewrites.media silent with ⟨other, _⟩ | set
          · rw [sets] at other
            cases other
          · rcases ih with rfl | before
            · exact .inr set
            · exact .inr ⟨sets, set.own, before.joined, set.stays⟩
  | false =>
      induction steps with
      | refl => exact .inl (.refl old)
      | tail _ rewrites ih =>
          rcases rewrites.media silent with ⟨_, subdued⟩ | set
          · rcases ih with before | before
            · exact .inl (before.trans subdued)
            · rw [before.sets] at sets
              cases sets
          · rw [set.sets] at sets
            cases sets

theorem applyAnonHelloState_subdued {hello : AnonHelloFrame} {nowMs : Nat}
    (accepted : applyAnonHelloState old hello nowMs = .ok new) : Subdued old new := by
  unfold applyAnonHelloState at accepted
  dsimp only at accepted
  split at accepted
  · cases accepted
  · cases accepted
    exact ⟨⟨id, id, id⟩, fun unjoined => by cases unjoined⟩

theorem Origin.media {hub : HubState} (silent : op.Silent)
    (origin : Origin hub room actor op connId new) :
    new.MediaOff ∨ ∃ old, room.participants.get? connId = some old ∧
      (Subdued old new ∨ SetsOwnMedia actor connId op old new) := by
  cases origin with
  | connects _ _ fresh =>
      subst fresh
      exact .inl ⟨rfl, rfl, rfl⟩
  | @billed old was billed =>
      rw [billed]
      exact .inr ⟨old, was, .inl ⟨⟨id, id, id⟩, .inr⟩⟩
  | @rewritten old was steps => exact .inr ⟨old, was, Rewrites.media_steps silent steps⟩
  | @anonHello _ _ _ old _ _ was _ accepted =>
      exact .inr ⟨old, was, .inl (applyAnonHelloState_subdued accepted)⟩

end Edits

/-- A greeting that the room accepts, be it at once or for the waiting room. -/
def HelloOutcome.accepts : HelloOutcome → Bool
  | .waiting _ | .joined _ _ => true
  | _ => false

theorem helloSection_mediaOff {room : RoomState} {connId : ConnId} {frame : HelloFrame}
    {snapshotAtMs deltaAtMs : Nat} {new : ParticipantState}
    (silent : frame.micEnabled = false ∧ frame.videoEnabled = false ∧
      frame.screenShareEnabled = false)
    (accepts : (helloSection room connId frame snapshotAtMs deltaAtMs).2.accepts = true)
    (found : (helloSection room connId frame snapshotAtMs deltaAtMs).1.participants.get? connId =
      some new) : new.MediaOff := by
  obtain ⟨mic, video, share⟩ := silent
  have off : ∀ participant waiting, (helloParticipant participant frame waiting).MediaOff :=
    fun _ _ => ⟨mic, video, share⟩
  revert accepts found
  unfold helloSection
  split
  · exact fun accepts => by cases accepts
  · split
    · exact fun accepts => by cases accepts
    · dsimp only
      split
      · exact fun accepts => by cases accepts
      · next participant was =>
          split
          · intro _ found
            simp only [RoomState.updateParticipant, HashMap.get?_modify, ↓reduceIte, was,
              Option.map_some, Option.some.injEq] at found
            exact found ▸ off _ _
          · intro _ found
            simp only [participants_completeJoin, RoomState.updateParticipant,
              HashMap.get?_modify, ↓reduceIte, was, Option.map_some, Option.some.injEq] at found
            exact found ▸ off _ _

/-! ### Runs -/

/-- Whoever has not joined has its media off. -/
def QuietUntilJoined (room : RoomState) : Prop :=
  ∀ connId participant, room.participants.get? connId = some participant →
    participant.helloSeen = false → participant.MediaOff

theorem QuietUntilJoined.event {hub : HubState} {earlier : List Event} {event : Event}
    {after : RoomState} (lawful : Lawful hub earlier event)
    (quiet : QuietUntilJoined (event.before.opened hub))
    (left : (event.after hub).room = some after) : QuietUntilJoined after := by
  intro connId new found unjoined
  rcases (Event.origin left found).media lawful.silent with off | ⟨old, was, subdued | sets⟩
  · exact off
  · rcases subdued.unjoined unjoined with off | wasUnjoined
    · exact off
    · exact subdued.toNothingOn.off (quiet connId old was wasUnjoined)
  · rw [sets.stays] at unjoined
    cases unjoined

theorem Trace.quietUntilJoined {hub : HubState} {history : List Event} (trace : Trace hub history) :
    QuietUntilJoined (roomAfter hub history) := by
  refine Trace.room (fun _ room => QuietUntilJoined room) ?_ ?_ trace
  · intro _ _ _ found
    simp [emptyRoom] at found
  · exact fun _ _ _ _ lawful _ quiet left => quiet.event lawful left

/-- The event respects that participants enter with their media off and control them. -/
structure MediaOwned (hub : HubState) (event : Event) : Prop where
  entering : ∀ after connId new, (event.after hub).room = some after →
    after.participants.get? connId = some new → new.helloSeen = true →
    (∀ old, (event.before.opened hub).participants.get? connId = some old →
      old.helloSeen = false) → new.MediaOff
  greeting : ∀ frame snapshotAtMs deltaAtMs room after new,
    event.op = .hello frame snapshotAtMs deltaAtMs → event.before.room = some room →
    (helloSection room event.connId frame snapshotAtMs deltaAtMs).2.accepts = true →
    (event.after hub).room = some after → after.participants.get? event.connId = some new →
      new.MediaOff
  switching : ∀ after connId old new, (event.after hub).room = some after →
    (event.before.opened hub).participants.get? connId = some old →
    after.participants.get? connId = some new → ¬ NothingOn old new →
      event.connId = connId ∧ event.op.setsMedia = true ∧ old.helloSeen = true

/-- Nobody enters a room with an open microphone, a camera or a shared screen, and whoever
has joined is the only one who can switch one of its media on. -/
theorem Run.mediaOwned {hub : HubState} {history : List Event} {system : System}
    (run : Run hub history system) :
    (∀ room, system.shared.room = some room → QuietUntilJoined room) ∧
      ∀ event ∈ history, MediaOwned hub event := by
  constructor
  · intro room found
    obtain ⟨trace, shared⟩ := run.trace
    rw [shared] at found
    rw [← roomAfter_of_some found]
    exact trace.quietUntilJoined
  · intro event happened
    obtain ⟨earlier, trace, same, lawful⟩ := run.lawful happened
    have quiet : QuietUntilJoined (event.before.opened hub) := by
      rw [same]
      exact trace.quietUntilJoined
    refine ⟨?_, ?_, ?_⟩
    · intro after connId new left found joined unjoined
      rcases (Event.origin left found).media lawful.silent with off | ⟨old, was, subdued | sets⟩
      · exact off
      · exact subdued.toNothingOn.off (quiet connId old was (unjoined old was))
      · have wasJoined := sets.joined
        rw [unjoined old was] at wasJoined
        cases wasJoined
    · intro frame snapshotAtMs deltaAtMs room after new request was accepts left found
      have updated : after = (helloSection room event.connId frame snapshotAtMs deltaAtMs).1 := by
        unfold Event.after at left
        rw [request] at left
        simp only [Operation.apply, was, Option.map_some, Option.some.injEq] at left
        exact left.symm
      rw [updated] at found
      exact helloSection_mediaOff (lawful.silent frame snapshotAtMs deltaAtMs request) accepts found
    · intro after connId old new left was found switched
      rcases (Event.origin left found).media lawful.silent with
        off | ⟨before, known, subdued | sets⟩
      · exact absurd (Subdued.of_off off).toNothingOn switched
      · rw [was] at known
        cases known
        exact absurd subdued.toNothingOn switched
      · rw [was] at known
        cases known
        exact ⟨sets.own, sets.sets, sets.joined⟩

/-- A greeting that asks for everything to be on. -/
def loudHello (participantId : String) : KaigiFrame :=
  .hello {
    protocolVersion := protocolVersion
    participantId := participantId
    displayName := none
    micEnabled := true
    videoEnabled := true
    screenShareEnabled := true
    hdrDisplay := false
    hdrCapture := false }

theorem Run.mediaOwned_script :
    ∃ history system room participant,
      Run (scriptedHub [loudHello "alice@sora"]) history system ∧
        system.shared.room = some room ∧ room.participants.get? 1 = some participant ∧
          participant.helloSeen = true ∧ QuietUntilJoined room ∧
            ∀ event ∈ history, MediaOwned (scriptedHub [loudHello "alice@sora"]) event := by
  obtain ⟨history, system, room, run, found, checks⟩ := Run.of_played_room
    (scriptedHub [loudHello "alice@sora"]) ([.connect 1 0] ++ sendsFrame 1 0 1 10)
    (fun _ room => (room.participants.get? 1).any (·.helloSeen)) (by decide +kernel)
  obtain ⟨participant, present, joined⟩ := (Option.any_eq_true ..).mp checks
  obtain ⟨quiet, owned⟩ := Run.mediaOwned run
  exact ⟨history, system, room, participant, run, found, present, joined, quiet room found, owned⟩

end Kaigi.Hub
