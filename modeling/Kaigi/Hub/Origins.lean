import Kaigi.Hub.Accounts

/-!
# Origins of participants

Every participant of a room is new, or it is one that was there before, and what
was written into it since is what the operation in between writes.
-/

set_option autoImplicit false

namespace Kaigi.Hub

open Collections Wire Authority

/-- Whoever is in the room descends from a participant of the room that the
operation found. -/
def Descends (start : RoomState) (actor : ConnId) (op : Operation) (room : RoomState) : Prop :=
  ∀ connId new, room.participants.get? connId = some new →
    ∃ old, start.participants.get? connId = some old ∧
      Relation.ReflTransGen (Rewrites start actor op connId) old new

theorem Descends.refl (room : RoomState) (actor : ConnId) (op : Operation) :
    Descends room actor op room :=
  fun _ new found => ⟨new, found, .refl⟩

theorem descends_survives (start : RoomState) (actor : ConnId) (op : Operation) :
    SurvivesEdits start actor op (Descends start actor op) where
  fields descends participants _ _ _ _ := by
    intro connId new found
    rw [participants] at found
    exact descends connId new found
  rewritten descends rewrites := by
    intro connId new found
    simp only [RoomState.updateParticipant, HashMap.get?_modify] at found
    split at found
    · next rewritten =>
        subst rewritten
        obtain ⟨participant, present, rfl⟩ := Option.map_eq_some_iff.mp found
        obtain ⟨old, was, steps⟩ := descends connId participant present
        exact ⟨old, was, steps.tail (rewrites participant present)⟩
    · exact descends connId new found
  removed target descends := by
    intro connId new found
    simp only [removeConnection, HashMap.get?_remove] at found
    split at found
    · cases found
    · exact descends connId new found
  keyed descends _ _ := descends
  acknowledged _ descends := descends
  capable _ descends := descends

/-- How a participant of the room after an operation came about. -/
inductive Origin (hub : HubState) (room : RoomState) (actor : ConnId) (op : Operation)
    (connId : ConnId) (new : ParticipantState) : Prop where
  | connects {connectedAtMs : Nat} : op = .connect connectedAtMs → actor = connId →
      new = freshParticipant connId connectedAtMs → Origin hub room actor op connId new
  | billed {old : ParticipantState} : room.participants.get? connId = some old →
      OnlyBilled old new → Origin hub room actor op connId new
  | rewritten {old : ParticipantState} : room.participants.get? connId = some old →
      Relation.ReflTransGen (Rewrites room actor op connId) old new →
      Origin hub room actor op connId new
  | anonHello {hello : AnonHelloFrame} {nowMs rosterAtMs : Nat} {old : ParticipantState} :
      op = .anonHello hello nowMs rosterAtMs → actor = connId →
      room.participants.get? connId = some old → anonHelloAdmits hub room connId hello = true →
      applyAnonHelloState old hello nowMs = .ok new → Origin hub room actor op connId new

theorem Charges.origin {hub : HubState} {room after : RoomState} {actor connId : ConnId}
    {op : Operation} {nowMs : Nat} {may : ConnId → ParticipantState → Prop}
    {new : ParticipantState} (charges : Charges room after nowMs may)
    (found : after.participants.get? connId = some new) : Origin hub room actor op connId new := by
  obtain ⟨old, was, billed, _⟩ := charges.charge connId new found
  exact .billed was billed

theorem Descends.origin {hub : HubState} {room after : RoomState} {actor connId : ConnId}
    {op : Operation} {new : ParticipantState} (descends : Descends room actor op after)
    (found : after.participants.get? connId = some new) : Origin hub room actor op connId new := by
  obtain ⟨old, was, steps⟩ := descends connId new found
  exact .rewritten was steps

theorem updateRoom_origin {hub : HubState} {room : RoomState} {actor connId : ConnId}
    {op : Operation} {new : ParticipantState}
    (found : (op.updateRoom hub actor room).participants.get? connId = some new) :
    Origin hub room actor op connId new := by
  have descends : op.movesCursors = false → Origin hub room actor op connId new := fun uncharged =>
    ((descends_survives room actor op).updateRoom uncharged (.refl room actor op)).origin found
  cases op with
  | billing nowMs => exact (billingSection_charges hub room actor nowMs).origin found
  | payment frame nowMs => exact (paymentSection_charges hub room actor frame nowMs).origin found
  | roomConfigUpdate update nowMs =>
      rcases roomConfigUpdateSection_charges hub room actor update nowMs with
        refused | ⟨_, _, charges⟩
      · change (roomConfigUpdateSection hub room actor update nowMs).1.participants.get? connId =
          some new at found
        rw [refused] at found
        exact .billed found rfl
      · obtain ⟨old, was, rfl⟩ := charges connId new found
        exact .billed was (onlyBilled_advanceBilling _ _ _)
  | anonHello frame nowMs rosterAtMs =>
      change (anonHelloSection hub room actor frame nowMs rosterAtMs).1.participants.get? connId =
        some new at found
      cases anonHelloSection_hellos hub room actor frame nowMs rosterAtMs with
      | refused participants =>
          rw [participants] at found
          exact .billed found rfl
      | @accepted participant joined _ admits was accepted participants =>
          rw [participants, HashMap.get?_modify] at found
          split at found
          · next same =>
              subst same
              rw [was] at found
              cases found
              exact .anonHello rfl rfl was admits accepted
          · exact .billed found rfl
  | _ => exact descends rfl

theorem Event.origin {hub : HubState} {event : Event} {after : RoomState}
    (left : (event.after hub).room = some after) {connId : ConnId} {new : ParticipantState}
    (found : after.participants.get? connId = some new) :
    Origin hub (event.before.opened hub) event.connId event.op connId new := by
  obtain ⟨actor, task, op, state⟩ := event
  dsimp only
  have updated : state.room.map (op.updateRoom hub actor) = some after →
      Origin hub (state.opened hub) actor op connId new := by
    intro same
    obtain ⟨room, present, rfl⟩ := Option.map_eq_some_iff.mp same
    rw [HubRoom.opened_of_some present]
    exact updateRoom_origin found
  have unchanged : state.room = some after → Origin hub (state.opened hub) actor op connId new := by
    intro same
    rw [HubRoom.opened_of_some same]
    exact .billed found rfl
  cases op with
  | connect connectedAtMs =>
      cases left
      rw [HashMap.get?_put] at found
      split at found
      · next same =>
          cases found
          exact .connects rfl same.symm (by rw [same])
      · exact .billed found rfl
  | disconnect deltaAtMs leftAtMs =>
      obtain ⟨room, present, remains⟩ := Option.bind_eq_some_iff.mp left
      rw [HubRoom.opened_of_some present]
      have survives := descends_survives room actor (.disconnect deltaAtMs leftAtMs)
      exact (survives.disconnectSection
        (survives.removed actor fun _ old was => ⟨old, was, .refl⟩) remains).origin found
  | trySend | takeMessage | closeChannel => exact unchanged left
  | _ => exact updated left

end Kaigi.Hub
