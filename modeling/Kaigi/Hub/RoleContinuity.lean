import Kaigi.Hub.Scripts

/-!
# Reserved roles

The co-host bindings of a transparent room are exact, whoever joined under the
name of the reserved host is the host, and the reservations change hands only
where the host or a vacancy allows it.
-/

set_option autoImplicit false

namespace Kaigi.Hub

open Collections Wire Interleaving Authority

theorem Run.orderly {hub : HubState} {history : List Event} {system : System} {room : RoomState}
    (run : Run hub history system) (found : system.shared.room = some room)
    (transparent : room.anonymousMode = false) : Orderly (groupOf room) := by
  obtain ⟨trace, shared⟩ := run.trace
  exact trace.orderly (shared ▸ found) transparent

/-- The co-host bindings are exactly the joined connections other than the host
whose participant id is reserved for a co-host. -/
theorem coHostBindings_exact {hub : HubState} {history : List Event} {system : System}
    {room : RoomState} (run : Run hub history system) (found : system.shared.room = some room)
    (transparent : room.anonymousMode = false) (connId : ConnId) :
    room.coHostConnIds.contains connId = true ↔
      ∃ participant, room.participants.get? connId = some participant ∧
        participant.helloSeen = true ∧ room.hostConnId ≠ some connId ∧
          room.coHostRoleOwners.contains participant.participantId = true := by
  have bindings := (run.orderly found transparent).coHosts
  have bound : room.coHostConnIds.contains connId = true ↔ isActiveCoHost room connId = true := by
    rw [isActiveCoHost_iff, ← bindings]
    rfl
  rw [bound]
  unfold isActiveCoHost
  simp only [Bool.and_eq_true, bne_iff_ne, Option.any_eq_true]
  constructor
  · rintro ⟨notHost, participant, present, joined, reserved⟩
    exact ⟨participant, present, joined, notHost, reserved⟩
  · rintro ⟨participant, present, joined, notHost, reserved⟩
    exact ⟨notHost, participant, present, joined, reserved⟩

def coHostHub : HubState :=
  scriptedHub [helloAs "alice@sora", helloAs "bob@sora", bobCoHostGrant]

/-- Alice and bob join, and alice makes bob a co-host. -/
def coHostScript : List Move :=
  [.connect 1 0, .connect 2 0] ++ sendsFrame 1 0 1 28 ++ sendsFrame 2 1 2 30 ++ sendsFrame 1 2 3 18

theorem coHostBindings_exact_script :
    ∃ history system room, Run coHostHub history system ∧ system.shared.room = some room ∧
      room.coHostConnIds.contains 2 = true ∧
      ∃ participant, room.participants.get? 2 = some participant ∧
        participant.helloSeen = true ∧ room.hostConnId ≠ some 2 ∧
          room.coHostRoleOwners.contains participant.participantId = true := by
  obtain ⟨history, system, room, run, found, checks⟩ := Run.of_played_room
    coHostHub coHostScript
    (fun _ room => !room.anonymousMode && room.coHostConnIds.contains 2)
    (by decide +kernel)
  rw [Bool.and_eq_true, Bool.not_eq_true'] at checks
  exact ⟨history, system, room, run, found, checks.2,
    (coHostBindings_exact run found checks.1 2).mp checks.2⟩

/-! ### Role continuity -/

/-- A refused grant leaves the room as it is. -/
theorem applyRoleGrant_error {hub : HubState} {room : RoomState} {connId : ConnId}
    {grant : RoleGrantFrame} {message : String}
    (refused : (applyRoleGrant hub room connId grant).2 = .error message) :
    (applyRoleGrant hub room connId grant).1 = room := by
  revert refused
  unfold applyRoleGrant
  split
  · exact fun _ => rfl
  · split
    · exact fun _ => rfl
    · split
      · exact fun _ => rfl
      · split
        · exact fun _ => rfl
        · split
          · exact fun _ => rfl
          · intro accepted
            cases accepted

/-- A refused revocation leaves the room as it is. -/
theorem applyRoleRevoke_error {hub : HubState} {room : RoomState} {connId : ConnId}
    {revoke : RoleRevokeFrame} {message : String}
    (refused : (applyRoleRevoke hub room connId revoke).2 = .error message) :
    (applyRoleRevoke hub room connId revoke).1 = room := by
  revert refused
  unfold applyRoleRevoke
  split
  · exact fun _ => rfl
  · split
    · exact fun _ => rfl
    · split
      · exact fun _ => rfl
      · split
        · exact fun _ => rfl
        · intro accepted
          cases accepted

/-- A role frame that was refused draws no presence sequence number either. -/
theorem roleChangeSection_error {result : RoomState × Except String RoleMutationOutcome}
    {message : String} (refused : result.2 = .error message) (deltaAtMs : Nat) :
    (roleChangeSection result deltaAtMs).1 = result.1 := by
  obtain ⟨room, outcome⟩ := result
  cases refused
  rfl

/-- The host and co-host roles are reserved for the same names. -/
def SameOwners (before after : RoomState) : Prop :=
  after.hostRoleOwner = before.hostRoleOwner ∧
    ∀ id, after.coHostRoleOwners.contains id = before.coHostRoleOwners.contains id

theorem sameOwners_iff {before after : RoomState} :
    SameOwners before after ↔ (groupOf after).hostOwner = (groupOf before).hostOwner ∧
      (groupOf after).coHostOwners = (groupOf before).coHostOwners := by
  refine and_congr Iff.rfl ?_
  rw [Set.ext_iff]
  exact forall_congr' fun id => Bool.eq_iff_iff

/-- The event is an accepted `RoleGrant` or `RoleRevoke`. -/
def Event.ChangesRoles (hub : HubState) (event : Event) (before : RoomState) : Prop :=
  (∃ grant deltaAtMs outcome, event.op = .roleGrant grant deltaAtMs ∧
      (applyRoleGrant hub before event.connId grant).2 = .ok outcome) ∨
    ∃ revoke deltaAtMs outcome, event.op = .roleRevoke revoke deltaAtMs ∧
      (applyRoleRevoke hub before event.connId revoke).2 = .ok outcome

/-- The reservations change only by an accepted role frame of the host or by a
hello to a room without a host. -/
theorem Run.owners {hub : HubState} {history : List Event} {system : System} {event : Event}
    {before after : RoomState} (run : Run hub history system) (happened : event ∈ history)
    (found : event.before.room = some before) (left : (event.after hub).room = some after)
    (changed : ¬ SameOwners before after) :
    (before.hostConnId = some event.connId ∧ event.ChangesRoles hub before) ∨
      (∃ hello snapshotAtMs deltaAtMs, event.op = .hello hello snapshotAtMs deltaAtMs) ∧
        before.hostConnId = none := by
  obtain ⟨earlier, _, _, lawful⟩ := run.lawful happened
  obtain ⟨connId, task, op, state⟩ := event
  dsimp only at found
  have step := lawful.step left
  rw [HubRoom.opened_of_some found] at step
  have requests := op.requests before connId
  have reservations := changed
  rw [sameOwners_iff, not_and_or] at changed
  rcases step.owners changed with ⟨sender, request | request, hosts, _⟩ |
      ⟨conn, id, request, vacant⟩ <;> rw [request] at requests
  · cases requests with
    | @grant frame deltaAtMs =>
        refine .inl ⟨hosts, .inl ?_⟩
        cases result : (applyRoleGrant hub before connId frame).2 with
        | ok outcome => exact ⟨frame, deltaAtMs, outcome, rfl, result⟩
        | error message =>
            have same : after = before := (HubRoom.eq_of_map found left).trans <|
              (roleChangeSection_error result deltaAtMs).trans (applyRoleGrant_error result)
            exact absurd (same ▸ ⟨rfl, fun _ => rfl⟩) reservations
  · cases requests with
    | @revoke frame deltaAtMs =>
        refine .inl ⟨hosts, .inr ?_⟩
        cases result : (applyRoleRevoke hub before connId frame).2 with
        | ok outcome => exact ⟨frame, deltaAtMs, outcome, rfl, result⟩
        | error message =>
            have same : after = before := (HubRoom.eq_of_map found left).trans <|
              (roleChangeSection_error result deltaAtMs).trans (applyRoleRevoke_error result)
            exact absurd (same ▸ ⟨rfl, fun _ => rfl⟩) reservations
  · cases requests with
    | @hello frame snapshotAtMs deltaAtMs =>
        exact .inr ⟨⟨frame, snapshotAtMs, deltaAtMs, rfl⟩, vacant⟩

/-- Whoever has joined under the name of the reserved host is the host, and the
reservations change only by the host or where there is none. -/
theorem hostRole_continuous {hub : HubState} {history : List Event} {system : System}
    (run : Run hub history system) :
    (∀ room, system.shared.room = some room → room.anonymousMode = false →
      ∀ connId participant, room.participants.get? connId = some participant →
        participant.helloSeen = true → room.hostRoleOwner = some participant.participantId →
          room.hostConnId = some connId) ∧
    ∀ event ∈ history, ∀ before after, event.before.room = some before →
      (event.after hub).room = some after → ¬ SameOwners before after →
        (before.hostConnId = some event.connId ∧ event.ChangesRoles hub before) ∨
          (∃ hello snapshotAtMs deltaAtMs, event.op = .hello hello snapshotAtMs deltaAtMs) ∧
            before.hostConnId = none := by
  constructor
  · intro room found transparent connId participant present joined owner
    exact (run.orderly found transparent).hostBound connId _ (members_groupOf present) joined owner
  · intro event happened before after found left changed
    exact run.owners happened found left changed

def returnHub : HubState :=
  scriptedHub [helloAs "alice@sora", helloAs "bob@sora"]

/-- Bob succeeds the host alice, who comes back on another connection. -/
def returnScript : List Move :=
  [.connect 1 0, .connect 2 0, .connect 3 0] ++ sendsFrame 1 0 1 31 ++ sendsFrame 2 1 2 33 ++
    closes 1 3 20 ++ sendsFrame 3 0 4 30

/-- The reserved host is joined on that connection, and the event is the one
that reserved the role. -/
def returnCheck (event : Event) (room : RoomState) : Bool :=
  !room.anonymousMode && (room.participants.get? 3).any fun participant =>
    participant.helloSeen && room.hostRoleOwner == some participant.participantId &&
      event.before.room.any fun before =>
        (event.after returnHub).room.any fun after =>
          before.hostRoleOwner != after.hostRoleOwner

theorem hostRole_continuous_script :
    ∃ history system room event before, Run returnHub history system ∧
      system.shared.room = some room ∧ room.hostConnId = some 3 ∧
        event ∈ history ∧ event.before.room = some before ∧
          ((before.hostConnId = some event.connId ∧ event.ChangesRoles returnHub before) ∨
            (∃ hello snapshotAtMs deltaAtMs, event.op = .hello hello snapshotAtMs deltaAtMs) ∧
              before.hostConnId = none) := by
  obtain ⟨history, system, room, run, found, checks⟩ := Run.of_played_room
    returnHub returnScript
    (fun history room => history.any fun event => returnCheck event room)
    (by decide +kernel)
  obtain ⟨event, happened, checked⟩ := List.any_eq_true.mp checks
  simp only [returnCheck, Bool.and_eq_true, Bool.not_eq_true', Option.any_eq_true, bne_iff_ne,
    beq_iff_eq] at checked
  obtain ⟨transparent, participant, present, ⟨joined, owner⟩, before, was, after, left, changed⟩ :=
    checked
  obtain ⟨continues, reserved⟩ := hostRole_continuous run
  exact ⟨history, system, room, event, before, run, found,
    continues room found transparent 3 participant present joined owner, happened, was,
    reserved event happened before after was left fun same => changed same.1.symm⟩

end Kaigi.Hub
