import Kaigi.Hub.Scripts

/-!
# Whom a moderation hits

A moderation of one participant looks its id up among all connections of the
room, also among those that have not said hello and have the id they were
inserted with.
-/

set_option autoImplicit false

namespace Kaigi.Hub

open Collections Wire Interleaving Authority

/-- Joined, or waiting for admission. -/
def ParticipantState.isActive (participant : ParticipantState) : Bool :=
  participant.helloSeen || participant.waitingRoomPending

/-- The sender may moderate, and the frame is not a replay. -/
def moderationPermitted (room : RoomState) (connId : ConnId) (frame : ModerationFrame) : Bool :=
  room.helloSeen connId && canModerateConn room connId &&
    (validateModerationSenderClock room connId frame).isOk

/-- The frame is applied to `target`, and nobody else notices. -/
structure ModerationHits (room : RoomState) (connId : ConnId) (frame : ModerationFrame)
    (nowMs admitAtMs : Nat) (target : ConnId) : Prop where
  targets : moderationTargets room connId frame = .ok [target]
  applied : ∃ accepted, validateModerationSenderClock room connId frame = .ok accepted ∧
    let result := moderateTarget frame.action nowMs admitAtMs (accepted, .empty) target
    moderationSection room connId frame nowMs admitAtMs = (result.1, some (.ok result.2))
  others : ∀ other, other ≠ target →
    (moderationSection room connId frame nowMs admitAtMs).1.participants.get? other =
      room.participants.get? other

/-- Whatever the iteration order of the participants is, the frame is refused or
hits whoever has joined or waits under the participant id. -/
def HitsHolder (room : RoomState) (connId : ConnId) (frame : ModerationFrame)
    (nowMs admitAtMs : Nat) (participantId : String) : Prop :=
  ∀ participants : HashMap ConnId ParticipantState,
    (∀ id, participants.get? id = room.participants.get? id) →
    ∀ outcome, (moderationSection { room with participants := participants } connId frame nowMs
      admitAtMs).2 = some (.ok outcome) → outcome.moderationError = none →
    ∀ target participant, room.participants.get? target = some participant →
      participant.isActive = true → participant.participantId = participantId →
      ModerationHits { room with participants := participants } connId frame nowMs admitAtMs target

/-- The frame would be accepted although it may find a connection that has
neither joined nor waits, under the id of one that has or does. -/
def Mistakable (room : RoomState) (connId : ConnId) (frame : ModerationFrame)
    (participantId : String) : Prop :=
  moderationPermitted room connId frame = true ∧
    frame.action ≠ .admitFromWaiting ∧ frame.action ≠ .denyFromWaiting ∧
    (∃ holder participant, room.participants.get? holder = some participant ∧
      participant.isActive = true ∧ participant.participantId = participantId) ∧
    ∃ stray participant, room.participants.get? stray = some participant ∧
      participant.isActive = false ∧ participant.participantId = participantId

/-! ### One target -/

theorem moderateTarget_others {action : ModerationAction} {nowMs admitAtMs : Nat}
    {room : RoomState} {outcome : ModerationOutcome} {target other : ConnId}
    (different : other ≠ target) :
    (moderateTarget action nowMs admitAtMs (room, outcome) target).1.participants.get? other =
      room.participants.get? other := by
  have medium : ∀ off : ParticipantState → ParticipantState,
      (disableMedium room target nowMs off outcome).1.participants.get? other =
        room.participants.get? other := by
    intro off
    unfold disableMedium
    split
    · rfl
    · simp [RoomState.updateParticipant, different]
  unfold moderateTarget
  cases action with
  | kick => rfl
  | disableMic | disableVideo | disableScreenShare => exact medium _
  | admitFromWaiting =>
      have admitted : (admitWaitingParticipant room target admitAtMs).1.participants.get? other =
          room.participants.get? other := by
        unfold admitWaitingParticipant
        split
        · rfl
        · split
          · rfl
          · simp [participants_completeJoin, RoomState.updateParticipant, different]
      dsimp only
      split <;> next same => rw [same] at admitted; exact admitted
  | denyFromWaiting =>
      have denied : (denyWaitingParticipant room target).1.participants.get? other =
          room.participants.get? other := by
        unfold denyWaitingParticipant
        split
        · rfl
        · split
          · rfl
          · dsimp only
            split <;> simp [succeedHost, syncActiveCoHostBindings, removeConnection, different]
      dsimp only
      split <;> next same => rw [same] at denied; exact denied

/-- Only admissions and denials may find that their target is not what they need. -/
theorem moderateTarget_error {action : ModerationAction} {nowMs admitAtMs : Nat}
    {room : RoomState} {target : ConnId} (notAdmit : action ≠ .admitFromWaiting)
    (notDeny : action ≠ .denyFromWaiting) :
    (moderateTarget action nowMs admitAtMs (room, .empty) target).2.moderationError = none := by
  unfold moderateTarget
  cases action with
  | kick => rfl
  | disableMic | disableVideo | disableScreenShare =>
      dsimp only
      unfold disableMedium
      split <;> rfl
  | admitFromWaiting => exact absurd rfl notAdmit
  | denyFromWaiting => exact absurd rfl notDeny

/-- Nobody is admitted or denied that does not wait. -/
theorem moderateTarget_waiting {action : ModerationAction} {nowMs admitAtMs : Nat}
    {room : RoomState} {target : ConnId} {participant : ParticipantState}
    (waitingRoom : action = .admitFromWaiting ∨ action = .denyFromWaiting)
    (found : room.participants.get? target = some participant)
    (accepted : (moderateTarget action nowMs admitAtMs (room, .empty) target).2.moderationError =
      none) : participant.waitingRoomPending = true := by
  by_contra notWaiting
  have notWaiting : participant.waitingRoomPending = false := by simpa using notWaiting
  rcases waitingRoom with rfl | rfl
  · simp [moderateTarget, admitWaitingParticipant, found, notWaiting, ModerationOutcome.empty]
      at accepted
  · simp [moderateTarget, denyWaitingParticipant, found, notWaiting, ModerationOutcome.empty]
      at accepted

/-! ### The section -/

theorem moderationTargets_clocked {room accepted : RoomState} {connId : ConnId}
    {frame : ModerationFrame}
    (clocked : validateModerationSenderClock room connId frame = .ok accepted) :
    moderationTargets accepted connId frame = moderationTargets room connId frame := by
  unfold moderationTargets
  rw [(validateModerationSenderClock_ok clocked).2]

theorem clocked_of_permitted {room : RoomState} {connId : ConnId} {frame : ModerationFrame}
    (permitted : moderationPermitted room connId frame = true) :
    ∃ accepted, validateModerationSenderClock room connId frame = .ok accepted := by
  have isOk := (Bool.and_eq_true_iff.mp permitted).2
  cases clock : validateModerationSenderClock room connId frame with
  | ok accepted => exact ⟨accepted, rfl⟩
  | error => rw [clock] at isOk; cases isOk

theorem moderationSection_permitted {room accepted : RoomState} {connId : ConnId}
    {frame : ModerationFrame} {target : ConnId} (nowMs admitAtMs : Nat)
    (permitted : moderationPermitted room connId frame = true)
    (clocked : validateModerationSenderClock room connId frame = .ok accepted)
    (targets : moderationTargets room connId frame = .ok [target]) :
    moderationSection room connId frame nowMs admitAtMs =
      ((moderateTarget frame.action nowMs admitAtMs (accepted, .empty) target).1,
        some (.ok (moderateTarget frame.action nowMs admitAtMs (accepted, .empty) target).2)) := by
  unfold moderationPermitted at permitted
  simp only [Bool.and_eq_true, RoomState.helloSeen, Option.any_eq_true] at permitted
  obtain ⟨⟨⟨sender, found, joined⟩, moderates⟩, _⟩ := permitted
  unfold moderationSection
  rw [found]
  simp only [joined, moderates, clocked, moderationTargets_clocked clocked, targets]
  rfl

/-- What an accepted moderation has passed. -/
theorem moderationSection_accepted {room : RoomState} {connId : ConnId} {frame : ModerationFrame}
    {nowMs admitAtMs : Nat} {outcome : ModerationOutcome}
    (accepts : (moderationSection room connId frame nowMs admitAtMs).2 = some (.ok outcome)) :
    moderationPermitted room connId frame = true ∧
      ∃ targets, moderationTargets room connId frame = .ok targets := by
  unfold moderationSection at accepts
  split at accepts
  · cases accepts
  · next sender found =>
      split at accepts
      · cases accepts
      · next joined =>
          split at accepts
          · cases accepts
          · next moderates =>
              split at accepts
              · cases accepts
              · next clockedRoom clocked =>
                  constructor
                  · have joined : sender.helloSeen = true := by simpa using joined
                    have moderates : canModerateConn room connId = true := by simpa using moderates
                    simp [moderationPermitted, RoomState.helloSeen, found, joined, moderates,
                      clocked, Except.isOk, Except.toBool]
                  · rw [moderationTargets_clocked clocked] at accepts
                    split at accepts
                    · cases accepts
                    · next targets chosen => exact ⟨targets, chosen⟩

theorem moderationPermitted_reordered {room : RoomState}
    {participants : HashMap ConnId ParticipantState}
    (same : ∀ id, participants.get? id = room.participants.get? id) (connId : ConnId)
    (frame : ModerationFrame) :
    moderationPermitted { room with participants := participants } connId frame =
      moderationPermitted room connId frame := by
  have clock : (validateModerationSenderClock { room with participants := participants } connId
      frame).isOk = (validateModerationSenderClock room connId frame).isOk := by
    unfold validateModerationSenderClock
    rw [show ({ room with participants := participants } : RoomState).participants.get? connId =
      room.participants.get? connId from same connId]
    split
    · rfl
    · unfold enforceSignedActionClock
      dsimp only
      split
      · rfl
      · split
        · split <;> rfl
        · rfl
  have hello : RoomState.helloSeen { room with participants := participants } connId =
      room.helloSeen connId := by
    simp [RoomState.helloSeen, same]
  unfold moderationPermitted
  rw [clock, hello]
  rfl

theorem moderationTargets_participant {room : RoomState} {connId : ConnId}
    {frame : ModerationFrame} {participantId : String} {targets : List ConnId}
    (named : frame.target = .participant participantId)
    (chosen : moderationTargets room connId frame = .ok targets) :
    ∃ target participant, targets = [target] ∧
      room.participants.get? target = some participant ∧
        participant.participantId = participantId := by
  unfold moderationTargets at chosen
  rw [named] at chosen
  dsimp only at chosen
  split at chosen
  · next id participant found =>
      cases chosen
      have sameId := List.find?_some found
      exact ⟨id, participant, rfl, HashMap.mem_iter.mp (List.mem_of_find?_eq_some found),
        beq_iff_eq.mp sameId⟩
  · cases chosen

/-- An iteration that starts at the stray connection finds it. -/
theorem Mistakable.misses {room : RoomState} {connId : ConnId} {frame : ModerationFrame}
    {participantId : String} (mistakable : Mistakable room connId frame participantId)
    (named : frame.target = .participant participantId) (nowMs admitAtMs : Nat) :
    ¬ HitsHolder room connId frame nowMs admitAtMs participantId := by
  intro hits
  obtain ⟨permitted, notAdmit, notDeny, ⟨holder, participant, held, active, sameId⟩,
    stray, other, present, inactive, strayId⟩ := mistakable
  have same := HashMap.get?_reorder room.participants [stray]
  have first : (room.participants.reorder [stray]).iter.find? (fun entry =>
      entry.2.participantId == participantId) = some (stray, other) :=
    HashMap.find?_iter_reorder present (beq_iff_eq.mpr strayId)
  have targets : moderationTargets { room with participants := room.participants.reorder [stray] }
      connId frame = .ok [stray] := by
    unfold moderationTargets
    rw [named]
    dsimp only
    rw [first]
  rw [← moderationPermitted_reordered same] at permitted
  obtain ⟨accepted, clocked⟩ := clocked_of_permitted permitted
  have whole := moderationSection_permitted nowMs admitAtMs permitted clocked targets
  have hit := hits _ same _ (congrArg Prod.snd whole) (moderateTarget_error notAdmit notDeny)
    holder participant held active sameId
  have swapped := hit.targets
  rw [targets] at swapped
  cases swapped
  rw [held] at present
  cases present
  rw [active] at inactive
  cases inactive

/-- Where the ids of joined and waiting connections are unique, a moderation that
cannot be mistaken hits the holder. -/
theorem hitsHolder_of_orderly {room : RoomState} (orderly : Orderly (groupOf room))
    {connId : ConnId} {frame : ModerationFrame} {participantId : String}
    (named : frame.target = .participant participantId) (nowMs admitAtMs : Nat)
    (safe : ¬ Mistakable room connId frame participantId) :
    HitsHolder room connId frame nowMs admitAtMs participantId := by
  have holds : ∀ {id : ConnId} {participant : ParticipantState},
      room.participants.get? id = some participant → participant.isActive = true →
      participant.participantId = participantId → (groupOf room).Holds id participantId := by
    intro id participant present active same
    exact ⟨_, members_groupOf present, Bool.or_eq_true_iff.mp active, same⟩
  intro participants same outcome accepts noError target participant present active sameId
  obtain ⟨permitted, targets, chosen⟩ := moderationSection_accepted accepts
  obtain ⟨id, hit, rfl, hitFound, hitId⟩ := moderationTargets_participant named chosen
  obtain ⟨accepted, clocked⟩ := clocked_of_permitted permitted
  have sameParticipants := (validateModerationSenderClock_ok clocked).2
  have whole := moderationSection_permitted nowMs admitAtMs permitted clocked chosen
  have known : room.participants.get? id = some hit := (same id).symm.trans hitFound
  have isHolder : id = target := by
    cases hitActive : hit.isActive with
    | true =>
        exact orderly.unique id target participantId (holds known hitActive hitId)
          (holds present active sameId)
    | false =>
        -- Only an admission or a denial is left, and the connection does not wait.
        refine absurd ⟨moderationPermitted_reordered same connId frame ▸ permitted, ?_, ?_,
          ⟨target, participant, present, active, sameId⟩, id, hit, known, hitActive, hitId⟩ safe
        all_goals
          intro action
          rw [whole] at accepts
          cases accepts
          have waits := moderateTarget_waiting (by simp [action])
            (sameParticipants ▸ hitFound) noError
          simp [ParticipantState.isActive, waits] at hitActive
  subst isHolder
  refine ⟨chosen, ⟨accepted, clocked, whole⟩, fun other different => ?_⟩
  rw [whole]
  exact (moderateTarget_others different).trans (by rw [sameParticipants])

/-- In every room that a run reaches in transparent mode, a moderation of one
participant hits the holder of the id in every iteration order if and only if no
connection can be mistaken for the holder. -/
theorem moderation_hitsHolder_iff {hub : HubState} {history : List Event} {system : System}
    (run : Run hub history system) {room : RoomState} (found : system.shared.room = some room)
    (transparent : room.anonymousMode = false) (connId : ConnId) {frame : ModerationFrame}
    {participantId : String} (named : frame.target = .participant participantId)
    (nowMs admitAtMs : Nat) :
    HitsHolder room connId frame nowMs admitAtMs participantId ↔
      ¬ Mistakable room connId frame participantId := by
  obtain ⟨trace, shared⟩ := run.trace
  have orderly := trace.orderly (shared ▸ found) transparent
  exact ⟨fun hits mistakable => mistakable.misses named nowMs admitAtMs hits,
    hitsHolder_of_orderly orderly named nowMs admitAtMs⟩

def kickOf (participantId : String) : ModerationFrame where
  sentAtMs := 1
  target := .participant participantId
  action := .kick

def kickHub (participantId : String) : HubState :=
  scriptedHub [helloAs "alice@sora", helloAs participantId]

/-- Alice hosts, a second connection has said nothing yet, and a third one joins. -/
def kickScript : List Move :=
  [.connect 1 0, .connect 2 0, .connect 3 0] ++ sendsFrame 1 0 1 31 ++ sendsFrame 3 1 2 33

theorem moderation_hitsHolder_script :
    ∃ history system room participant, Run (kickHub "bob@sora") history system ∧
      system.shared.room = some room ∧ moderationPermitted room 1 (kickOf "bob@sora") = true ∧
        room.participants.get? 3 = some participant ∧ participant.isActive = true ∧
          participant.participantId = "bob@sora" ∧
            HitsHolder room 1 (kickOf "bob@sora") 0 0 "bob@sora" := by
  obtain ⟨history, system, room, run, found, checks⟩ := Run.of_played_room
    (kickHub "bob@sora") kickScript
    (fun _ room => !room.anonymousMode && moderationPermitted room 1 (kickOf "bob@sora") &&
      (room.participants.get? 3).any (fun participant =>
        participant.isActive && participant.participantId == "bob@sora") &&
      room.participants.values.all fun participant =>
        participant.participantId != "bob@sora" || participant.isActive) (by decide +kernel)
  simp only [Bool.and_eq_true, Bool.not_eq_true', Option.any_eq_true, beq_iff_eq,
    List.all_eq_true, Bool.or_eq_true, bne_iff_ne] at checks
  obtain ⟨⟨⟨transparent, permitted⟩, participant, present, active, sameId⟩, clear⟩ := checks
  refine ⟨history, system, room, participant, run, found, permitted, present, active, sameId,
    (moderation_hitsHolder_iff run found transparent 1 rfl 0 0).mpr ?_⟩
  rintro ⟨_, _, _, _, stray, other, strayFound, inactive, strayId⟩
  rcases clear other (HashMap.mem_values.mpr ⟨stray, strayFound⟩) with different | isActive
  · exact different strayId
  · rw [isActive] at inactive
    cases inactive

/-- The third connection has joined under the id that the second one was inserted
with. -/
theorem moderation_hitsStray :
    ¬ ∀ (hub : HubState) (history : List Event) (system : System) (room : RoomState)
      (connId : ConnId) (frame : ModerationFrame) (participantId : String) (nowMs admitAtMs : Nat),
      Run hub history system → system.shared.room = some room → room.anonymousMode = false →
        frame.target = .participant participantId →
          HitsHolder room connId frame nowMs admitAtMs participantId := by
  intro claimed
  obtain ⟨history, system, room, run, found, checks⟩ := Run.of_played_room
    (kickHub "conn-2") kickScript
    (fun _ room => !room.anonymousMode && moderationPermitted room 1 (kickOf "conn-2") &&
      (room.participants.get? 3).any (fun participant =>
        participant.isActive && participant.participantId == "conn-2") &&
      (room.participants.get? 2).any (fun participant =>
        !participant.isActive && participant.participantId == "conn-2")) (by decide +kernel)
  simp only [Bool.and_eq_true, Bool.not_eq_true', Option.any_eq_true, beq_iff_eq] at checks
  obtain ⟨⟨⟨transparent, permitted⟩, holder, held, active, sameId⟩, stray, present, inactive,
    strayId⟩ := checks
  have mistakable : Mistakable room 1 (kickOf "conn-2") "conn-2" :=
    ⟨permitted, by decide, by decide, ⟨3, holder, held, active, sameId⟩,
      2, stray, present, inactive, strayId⟩
  exact mistakable.misses rfl 0 0
    (claimed _ history system room 1 (kickOf "conn-2") "conn-2" 0 0 run found transparent rfl)

end Kaigi.Hub
