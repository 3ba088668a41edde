import Kaigi.Hub.PresenceLog

/-!
# Numbers of the presence deltas

An event of a run numbers at most one presence delta, and gives it the next
sequence number of a room that stays open.
-/

set_option autoImplicit false

namespace Kaigi.Hub

open Collections Wire Interleaving Authority Replication

/-- The presence deltas that the event numbers. -/
def Event.presenceDeltas (hub : HubState) (event : Event) : List ParticipantPresenceDeltaFrame :=
  event.before.room.elim [] (event.op.presenceDeltas hub event.connId)

/-- The sequence number of a room is kept, or the next one is given to a single delta. -/
inductive Numbers (before : Nat) : List ParticipantPresenceDeltaFrame → Nat → Prop where
  | nothing : Numbers before [] before
  | next {delta : ParticipantPresenceDeltaFrame} :
      delta.sequence = saturatingAdd before 1 → Numbers before [delta] delta.sequence

section Numbering

variable {hub : HubState} {connId : ConnId} {room after : RoomState}

theorem numbers_unchanged {before after : Nat} (same : after = before) :
    Numbers before [] after := by
  rw [same]
  exact .nothing

theorem numbers_of_publishes {deltas : List ParticipantPresenceDeltaFrame}
    (published : Publishes u64Max (keeperOf room) (deltas.map changeOf) (keeperOf after))
    (single : deltas.length ≤ 1) :
    Numbers room.presenceSequence deltas after.presenceSequence := by
  match deltas, single with
  | [], _ => exact numbers_unchanged (congrArg Keeper.last published.of_nil)
  | [delta], _ =>
      obtain ⟨numbered, last⟩ := published.of_singleton
      have last : after.presenceSequence = delta.sequence := last
      rw [last]
      exact .next numbered

theorem helloSection_numbers (hello : HelloFrame) (snapshotAtMs deltaAtMs : Nat) :
    Numbers room.presenceSequence
      (helloSection room connId hello snapshotAtMs deltaAtMs).2.presenceDeltas
      (helloSection room connId hello snapshotAtMs deltaAtMs).1.presenceSequence := by
  refine numbers_of_publishes (helloSection_publishes room connId hello snapshotAtMs deltaAtMs) ?_
  cases (helloSection room connId hello snapshotAtMs deltaAtMs).2 <;>
    simp [HelloOutcome.presenceDeltas]

theorem roleChangeSection_numbers {result : RoomState × Except String RoleMutationOutcome}
    (same : keeperOf result.1 = keeperOf room) (deltaAtMs : Nat) :
    Numbers room.presenceSequence (roleChangeDeltas (roleChangeSection result deltaAtMs).2)
      (roleChangeSection result deltaAtMs).1.presenceSequence := by
  refine numbers_of_publishes (roleChangeSection_publishes same deltaAtMs) ?_
  rcases (roleChangeSection result deltaAtMs).2 with message | ⟨outcome, delta⟩
  · exact Nat.zero_le 1
  · cases delta <;> simp [roleChangeDeltas]

/-- Only an admission numbers a delta. -/
theorem moderateTarget_numbers {action : ModerationAction}
    (notAdmit : action ≠ .admitFromWaiting) (nowMs admitAtMs : Nat)
    (state : RoomState × ModerationOutcome) (target : ConnId) :
    (moderateTarget action nowMs admitAtMs state target).2.presenceDeltas =
        state.2.presenceDeltas ∧
      (moderateTarget action nowMs admitAtMs state target).1.presenceSequence =
        state.1.presenceSequence := by
  obtain ⟨room, outcome⟩ := state
  have medium : ∀ off : ParticipantState → ParticipantState,
      (disableMedium room target nowMs off outcome).2.presenceDeltas = outcome.presenceDeltas ∧
        (disableMedium room target nowMs off outcome).1.presenceSequence =
          room.presenceSequence := by
    intro off
    unfold disableMedium
    split <;> exact ⟨rfl, rfl⟩
  unfold moderateTarget
  cases action with
  | kick => exact ⟨rfl, rfl⟩
  | disableMic | disableVideo | disableScreenShare => exact medium _
  | admitFromWaiting => exact absurd rfl notAdmit
  | denyFromWaiting =>
      have denied : (denyWaitingParticipant room target).1.presenceSequence =
          room.presenceSequence := by
        unfold denyWaitingParticipant
        split
        · rfl
        · split
          · rfl
          · dsimp only
            split <;> rfl
      dsimp only
      split <;> next same => rw [same] at denied; exact ⟨rfl, denied⟩

/-- An admission numbers the delta that it reports. -/
theorem admitTarget_numbers (nowMs admitAtMs : Nat) (room : RoomState) (target : ConnId) :
    Numbers room.presenceSequence
      (moderateTarget .admitFromWaiting nowMs admitAtMs (room, .empty) target).2.presenceDeltas
      (moderateTarget .admitFromWaiting nowMs admitAtMs (room, .empty) target).1.presenceSequence
      := by
  obtain ⟨admits, refuses⟩ := admitWaitingParticipant_publishes room target admitAtMs
  unfold moderateTarget
  dsimp only
  split
  · next admitted same =>
      rw [same] at admits
      have published : Publishes u64Max (keeperOf room) ([admitted.presenceDelta].map changeOf) _ :=
        admits _ rfl
      exact numbers_of_publishes published (Nat.le_refl 1)
  · next same =>
      rw [same] at refuses
      exact numbers_unchanged (congrArg Keeper.last (refuses _ rfl))

theorem moderateTargets_numbers {action : ModerationAction}
    (notAdmit : action ≠ .admitFromWaiting) (nowMs admitAtMs : Nat) (targets : List ConnId)
    (state : RoomState × ModerationOutcome) :
    (targets.foldl (moderateTarget action nowMs admitAtMs) state).2.presenceDeltas =
        state.2.presenceDeltas ∧
      (targets.foldl (moderateTarget action nowMs admitAtMs) state).1.presenceSequence =
        state.1.presenceSequence := by
  induction targets generalizing state with
  | nil => exact ⟨rfl, rfl⟩
  | cons target rest ih =>
      have first := moderateTarget_numbers notAdmit nowMs admitAtMs state target
      exact ⟨(ih _).1.trans first.1, (ih _).2.trans first.2⟩

theorem moderationSection_numbers (frame : ModerationFrame) (nowMs admitAtMs : Nat) :
    Numbers room.presenceSequence
      (moderationDeltas (moderationSection room connId frame nowMs admitAtMs).2)
      (moderationSection room connId frame nowMs admitAtMs).1.presenceSequence := by
  unfold moderationSection
  split
  · exact .nothing
  · split
    · exact .nothing
    · split
      · exact .nothing
      · split
        · exact .nothing
        · next accepted enforced =>
            have clocked : accepted.presenceSequence = room.presenceSequence :=
              congrArg Keeper.last (keeperOf_clocked enforced)
            rw [← clocked]
            split
            · exact .nothing
            · next targets chosen =>
                dsimp only [moderationDeltas]
                by_cases admits : frame.action = .admitFromWaiting
                · obtain ⟨target, _, rfl, _⟩ := moderationTargets_single (.inl admits) chosen
                  rw [List.foldl_cons, List.foldl_nil, admits]
                  exact admitTarget_numbers nowMs admitAtMs accepted target
                · obtain ⟨deltas, sequence⟩ :=
                    moderateTargets_numbers admits nowMs admitAtMs targets (accepted, .empty)
                  rw [deltas, sequence]
                  exact .nothing

/-- Only a transparent room that stays open reports who leaves. -/
theorem disconnectSection_numbers {deltaAtMs leftAtMs : Nat}
    (left : (disconnectSection room connId deltaAtMs leftAtMs).1 = some after) :
    Numbers room.presenceSequence
      (disconnectSection room connId deltaAtMs leftAtMs).2.presenceDelta.toList
      after.presenceSequence := by
  have succeeds : ∀ (changed : Bool) (current : RoomState),
      (if changed then (succeedHost current).bumpPermissionsEpoch else current).presenceSequence =
        current.presenceSequence := by
    intro changed current
    split <;> rfl
  have reports : ∀ (current : RoomState) (presenceId : Option String),
      current.presenceSequence = room.presenceSequence →
      let reported := if presenceId.isSome then current.bumpPresenceSequence else current
      Numbers room.presenceSequence
        (presenceId.map fun participantId => ({
          atMs := deltaAtMs
          sequence := reported.presenceSequence
          joined := []
          left := [{ atMs := leftAtMs, participantId := participantId }]
          roleChanges := [] } : ParticipantPresenceDeltaFrame)).toList
        reported.presenceSequence := by
    intro current presenceId same
    cases presenceId with
    | none => exact numbers_unchanged same
    | some participantId =>
        refine .next ?_
        rw [← same]
        rfl
  unfold disconnectSection at left ⊢
  dsimp only at left ⊢
  split at left
  · cases left
  · next remains =>
      rw [if_neg remains]
      cases left
      exact reports _ _ (succeeds _ _)

theorem updateRoom_numbers (op : Operation) (stays : op.isDisconnect = false) :
    Numbers room.presenceSequence (op.presenceDeltas hub connId room)
      (op.updateRoom hub connId room).presenceSequence := by
  cases op with
  | hello frame snapshotAtMs deltaAtMs => exact helloSection_numbers frame snapshotAtMs deltaAtMs
  | roleGrant grant deltaAtMs =>
      exact roleChangeSection_numbers (keeperOf_applyRoleGrant hub room connId grant) deltaAtMs
  | roleRevoke revoke deltaAtMs =>
      exact roleChangeSection_numbers (keeperOf_applyRoleRevoke hub room connId revoke) deltaAtMs
  | moderation frame nowMs admitAtMs => exact moderationSection_numbers frame nowMs admitAtMs
  | disconnect => cases stays
  | _ => exact numbers_unchanged (presenceSequence_quiet hub connId room rfl)

theorem Event.numbers {event : Event} (found : event.before.room = some room)
    (left : (event.after hub).room = some after) :
    Numbers room.presenceSequence (event.presenceDeltas hub) after.presenceSequence := by
  obtain ⟨actor, task, op, state⟩ := event
  unfold Event.presenceDeltas
  dsimp only at found ⊢
  rw [found, Option.elim_some]
  have updated : op.isDisconnect = false → state.room.map (op.updateRoom hub actor) = some after →
      Numbers room.presenceSequence (op.presenceDeltas hub actor room) after.presenceSequence := by
    intro stays same
    rw [found] at same
    cases same
    exact updateRoom_numbers op stays
  have unchanged : op.presenceDeltas hub actor room = [] → state.room = some after →
      Numbers room.presenceSequence (op.presenceDeltas hub actor room) after.presenceSequence := by
    intro silent same
    rw [found] at same
    cases same
    rw [silent]
    exact .nothing
  cases op with
  | connect connectedAtMs =>
      simp only [Event.after, Operation.apply, HubRoom.updateChannel, found, Option.getD_some,
        Option.some.injEq] at left
      rw [← left]
      exact .nothing
  | disconnect deltaAtMs leftAtMs =>
      obtain ⟨current, present, remains⟩ := Option.bind_eq_some_iff.mp left
      rw [found] at present
      cases present
      exact disconnectSection_numbers remains
  | trySend | takeMessage | closeChannel => exact unchanged rfl left
  | _ => exact updated rfl left

/-- Whoever closes the room reports nothing. -/
theorem Event.silent_of_closed {event : Event} (found : event.before.room = some room)
    (closed : (event.after hub).room = none) : event.presenceDeltas hub = [] := by
  obtain ⟨actor, task, op, state⟩ := event
  unfold Event.presenceDeltas
  dsimp only at found ⊢
  rw [found, Option.elim_some]
  have open' : state.room.map (op.updateRoom hub actor) ≠ none := by
    rw [found]
    nofun
  cases op with
  | connect => cases closed
  | disconnect deltaAtMs leftAtMs =>
      have closed : state.room.bind
          (fun room => (disconnectSection room actor deltaAtMs leftAtMs).1) = none := closed
      rw [found, Option.bind_some] at closed
      dsimp only [Operation.presenceDeltas]
      unfold disconnectSection at closed ⊢
      dsimp only at closed ⊢
      split at closed
      · next empty =>
          rw [if_pos empty]
          rfl
      · cases closed
  | trySend | takeMessage | closeChannel => rfl
  | _ => exact absurd closed open'

/-- A delta is numbered in a room that stays open. -/
theorem Event.numbered {event : Event} (draws : event.presenceDeltas hub ≠ []) :
    ∃ delta room after, event.presenceDeltas hub = [delta] ∧ event.before.room = some room ∧
      (event.after hub).room = some after ∧
        delta.sequence = saturatingAdd room.presenceSequence 1 ∧
          after.presenceSequence = delta.sequence := by
  cases found : event.before.room with
  | none =>
      unfold Event.presenceDeltas at draws
      rw [found] at draws
      exact absurd rfl draws
  | some room =>
      cases left : (event.after hub).room with
      | none => exact absurd (event.silent_of_closed found left) draws
      | some after =>
          have numbers := event.numbers found left
          generalize event.presenceDeltas hub = deltas at draws numbers
          generalize sequence : after.presenceSequence = last at numbers
          cases numbers with
          | nothing => exact absurd rfl draws
          | next numbered => exact ⟨_, room, after, rfl, rfl, rfl, numbered, sequence⟩

end Numbering

end Kaigi.Hub
