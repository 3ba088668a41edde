import Kaigi.Authority.Staffing
import Kaigi.Hub.Cleanup
import Kaigi.Hub.Duties
import Kaigi.Hub.FrameOperations
import Kaigi.Hub.KeyEpochs

/-!
# Referential integrity

The room keeps five tables beside its participants. What they name is a participant,
unless a connection that was already removed claims the host role, or the host of an
anonymous room leaves it.
-/

set_option autoImplicit false

namespace Kaigi.Hub

open Collections Wire Interleaving Authority

/-- What the tables of the room name is a participant. -/
structure Referential (room : RoomState) : Prop where
  host : ∀ connId, room.hostConnId = some connId → room.participants.containsKey connId = true
  coHosts : ∀ connId, room.coHostConnIds.contains connId = true →
    room.participants.containsKey connId = true
  deviceCaps : ∀ connId, room.deviceCapsByConn.containsKey connId = true →
    room.participants.containsKey connId = true
  keyEpochs : ∀ connId, room.e2eeEpochs.containsKey connId = true →
    room.participants.containsKey connId = true
  ackEpochs : ∀ connId, room.keyRotationAckEpochs.containsKey connId = true →
    room.participants.containsKey connId = true

/-- The operation leaves the host role with a connection that is not in the room: a
`Hello` that passes its checks claims it for one, or an anonymous room keeps the host
that leaves. -/
def Operation.misplacesHost (op : Operation) (connId : ConnId) (room : RoomState) : Bool :=
  match op with
  | .hello frame _ _ =>
      !room.anonymousMode && !room.participants.containsKey connId && room.hostConnId.isNone &&
        (validateJoinAllowed room connId frame.participantId).isNone
  | op => op.leavesStaleHost connId room

section Host

variable {hub : HubState} {room : RoomState} {connId : ConnId}

/-- A `Hello` from a connection that is not in the room leaves the host as it is. -/
theorem helloSection_keepsHost {frame : HelloFrame} {snapshotAtMs deltaAtMs : Nat}
    (absent : room.participants.get? connId = none)
    (keeps : (Operation.hello frame snapshotAtMs deltaAtMs).misplacesHost connId room = false) :
    (helloSection room connId frame snapshotAtMs deltaAtMs).1.hostConnId = room.hostConnId := by
  unfold helloSection
  by_cases anonymous : room.anonymousMode = true
  · rw [if_pos anonymous]
  · rw [if_neg anonymous]
    cases allowed : validateJoinAllowed room connId frame.participantId with
    | some reason => rfl
    | none =>
        have hosted : room.hostConnId.isSome = true := by
          simp only [Operation.misplacesHost, allowed, HashMap.containsKey, absent] at keeps
          simpa [anonymous, Option.isSome_iff_ne_none] using keeps
        dsimp only
        rw [claimVacantHost_of_isSome connId _ hosted, absent]

theorem keepsHost {op : Operation} {state : HubRoom} {after : RoomState}
    (left : (op.apply hub connId state).room = some after)
    (keeps : ∀ room, state.room = some room → op.misplacesHost connId room = false) :
    KeepsHost (op.action (state.opened hub) connId) (groupOf (state.opened hub))
      (groupOf after) := by
  have requests := op.requests (state.opened hub) connId
  constructor
  · intro conn id request absent
    rw [request] at requests
    cases requests with
    | @hello frame snapshotAtMs deltaAtMs =>
        obtain ⟨room, found, rfl⟩ := Option.map_eq_some_iff.mp left
        rw [HubRoom.opened_of_some found] at absent ⊢
        refine helloSection_keepsHost ?_ (keeps room found)
        by_contra present
        obtain ⟨participant, known⟩ := Option.ne_none_iff_exists'.mp present
        exact absent ⟨_, members_groupOf known⟩
  · intro conn request anonymous hosts
    rw [request] at requests
    cases requests with
    | leave =>
        obtain ⟨room, found, remains⟩ := Option.bind_eq_some_iff.mp left
        rw [HubRoom.opened_of_some found] at anonymous hosts
        obtain ⟨other, stays, different⟩ := disconnectSection_remains remains
        refine Bool.eq_false_iff.mp (keeps room found) ?_
        simp only [Operation.misplacesHost, Operation.leavesStaleHost, Bool.and_eq_true,
          beq_iff_eq, List.any_eq_true, bne_iff_ne]
        exact ⟨⟨anonymous, hosts⟩, other, stays, different⟩

end Host

section Capabilities

/-- A device capability is stored right after a look at the room that found its sender
joined. -/
def StoresChecked (connId : ConnId) (past : List Event) (op : Operation) (_ : HubRoom) : Prop :=
  ∀ cap, op = .deviceCapability cap →
    ∃ checked rest, past = checked :: rest ∧ checked.op = .read ∧
      checked.before.hasJoined connId = true

variable {hub : HubState} {connId : ConnId}

theorem storesChecked_of_plumbing {op : Operation} (plain : op.isPlumbing = true)
    (past : List Event) (state : HubRoom) : StoresChecked connId past op state := by
  rintro cap rfl
  cases plain

theorem meets_handleDeviceCapability (cap : DeviceCapabilityFrame) (world : World) :
    (handleDeviceCapability hub connId cap).Meets (ownContract hub connId (StoresChecked connId))
      (fun _ _ => True) world := by
  have quiet : ∀ {program : Handler Unit},
      program.Performs (fun op => op.isPlumbing = true) → ∀ world,
      program.Meets (ownContract hub connId (StoresChecked connId)) (fun _ _ => True) world :=
    fun performs => meets_of_performs performs fun _ => storesChecked_of_plumbing
  refine meets_critical fun state => ⟨nofun, ?_⟩
  split
  · exact quiet (performs_sendError plumbing_isPlumbing connId _) _
  · refine meets_critical fun checked => ⟨nofun, ?_⟩
    cases outcome : (checked.room.map (deviceCapabilityCheck · connId cap)).getD .ignored with
    | ignored => exact fun _ _ => trivial
    | refused message => exact quiet (performs_sendError plumbing_isPlumbing connId message) _
    | passed =>
        refine meets_critical fun later =>
          ⟨?_, quiet (performs_broadcastFrame plumbing_isPlumbing (relays_isPlumbing _)) _⟩
        rintro _ ⟨⟩
        refine ⟨_, _, rfl, rfl, ?_⟩
        cases found : checked.room with
        | none =>
            rw [found] at outcome
            cases outcome
        | some room =>
            rw [found] at outcome
            exact HubRoom.hasJoined_iff.mpr
              ⟨room, found, (checkSender_passed (checkSenderAfter_passed outcome).2).1⟩

/-- Every connection task stores only device capabilities it has checked. -/
def capabilityProtocol (hub : HubState) (connId : ConnId) : Protocol hub connId where
  admits := StoresChecked connId
  resting _ := True
  connects _ _ := trivial
  pongs past _ state _ := ⟨storesChecked_of_plumbing rfl past state, trivial⟩
  serves frame world _ := by
    cases frame with
    | deviceCapability cap => exact meets_handleDeviceCapability cap world
    | _ =>
        refine meets_of_performs (performs_handleFrame _) ?_ world
        rintro op (plain | own) past state
        · exact storesChecked_of_plumbing plain past state
        · rintro cap rfl
          cases own
  leaves world _ := by
    refine meets_of_performs performs_leave ?_ world
    rintro op (plain | ⟨_, _, rfl⟩ | ⟨_, rfl⟩) past state
    · exact storesChecked_of_plumbing plain past state
    · exact nofun
    · exact nofun

end Capabilities

section Runs

variable {hub : HubState} {connId : ConnId}

/-- A room outlives every event that does not take its last participant. -/
theorem Event.room_remains {event : Event} {room : RoomState}
    (found : event.before.room = some room) (present : room.participants.get? connId ≠ none)
    (stays : event.op.isDisconnect = true → event.connId ≠ connId) :
    ∃ after, (event.after hub).room = some after := by
  obtain ⟨actor, task, op, state⟩ := event
  have kept : ∀ update : RoomState → RoomState,
      ∃ after, state.room.map update = some after := fun update =>
    ⟨update room, Option.map_eq_some_iff.mpr ⟨room, found, rfl⟩⟩
  cases op with
  | connect => exact ⟨_, rfl⟩
  | disconnect deltaAtMs leftAtMs =>
      have remains : (room.participants.remove actor).isEmpty = false := by
        by_contra empty
        have gone := HashMap.isEmpty_iff.mp (Bool.eq_true_of_not_eq_false empty) connId
        rw [HashMap.get?_remove, if_neg (Ne.symm (stays rfl))] at gone
        exact present gone
      change ∃ after, (state.room.bind fun room =>
        (disconnectSection room actor deltaAtMs leftAtMs).1) = some after
      rw [show state.room = some room from found, Option.bind_some]
      unfold disconnectSection
      dsimp only
      rw [if_neg (by simp [removeConnection, remains])]
      exact ⟨_, rfl⟩
  | trySend | takeMessage | closeChannel => exact ⟨room, found⟩
  | _ => exact kept _

/-- What survives every event holds of the room from the moment a connection has joined
until its own disconnect. -/
theorem Trace.while_joined (inv : RoomState → Prop) {newer older : List Event}
    (kept : ∀ earlier event room after, Lawful hub earlier event →
      event.before.room = some room → (event.after hub).room = some after → inv room → inv after)
    (trace : Trace hub (newer ++ older)) {first : RoomState}
    (was : (sharedAfter hub older).room = some first) (joined : first.helloSeen connId = true)
    (start : inv first)
    (stays : ∀ event ∈ newer, event.op.isDisconnect = true → event.connId ≠ connId) :
    ∃ room, (sharedAfter hub (newer ++ older)).room = some room ∧
      room.helloSeen connId = true ∧ inv room := by
  induction newer with
  | nil => exact ⟨first, was, joined, start⟩
  | cons event rest ih =>
      rw [List.cons_append] at trace
      cases trace with
      | step past same lawful =>
          obtain ⟨room, found, hello, holds⟩ :=
            ih past fun other member => stays other (List.mem_cons_of_mem _ member)
          rw [← same] at found
          have own := stays event List.mem_cons_self
          obtain ⟨after, left⟩ :=
            Event.room_remains found (RoomState.present_of_joined hello) own
          have registered := past.registered
          unfold roomAfter at registered
          rw [← same] at registered
          refine ⟨after, left, lawful.joined_stays left registered.apart ?_ own,
            kept _ event room after lawful found left holds⟩
          rw [HubRoom.opened_of_some found]
          exact hello

/-- Whoever has joined has joined until its own disconnect. -/
theorem Trace.joined_until_left {newer older : List Event} (trace : Trace hub (newer ++ older))
    (joined : (sharedAfter hub older).hasJoined connId = true)
    (stays : ∀ event ∈ newer, event.op.isDisconnect = true → event.connId ≠ connId) :
    (sharedAfter hub (newer ++ older)).hasJoined connId = true := by
  obtain ⟨first, was, hello⟩ := HubRoom.hasJoined_iff.mp joined
  obtain ⟨room, found, still, _⟩ :=
    Trace.while_joined (fun _ => True) (fun _ _ _ _ _ _ _ _ => trivial) trace was hello trivial
      stays
  exact HubRoom.hasJoined_iff.mpr ⟨room, found, still⟩

/-- Whoever stores a device capability has joined. -/
theorem Run.stores_joined {history : List Event} {system : System} {event : Event}
    {cap : DeviceCapabilityFrame} (run : Run hub history system) (happened : event ∈ history)
    (stores : event.op = .deviceCapability cap) : event.before.hasJoined event.connId = true := by
  have every : ∀ other ∈ history, other.op.isTasks = true → other.task = .connection := by
    intro other member
    obtain ⟨_, _, _, lawful⟩ := run.lawful member
    exact lawful.ownTask
  obtain ⟨later, earlier, rfl⟩ := List.append_of_mem happened
  obtain ⟨past, before, _⟩ := run.trace.1.lawful
  have admitted := ((capabilityProtocol hub event.connId).kept run).admitted later event earlier
    rfl rfl (every event happened (by rw [stores]; rfl))
  rcases admitted with ⟨_, connects⟩ | admitted
  · rw [stores] at connects
    cases connects
  · obtain ⟨checked, rest, split, looks, joined⟩ := admitted cap stores
    obtain ⟨newer, older, rfl, foreign, _, _⟩ := List.filter_eq_cons_iff.mp split
    have regrouped : newer ++ checked :: older = (newer ++ [checked]) ++ older := by simp
    obtain ⟨_, found, _⟩ := past.lawful
    rw [found] at joined
    rw [before]
    rw [regrouped] at past ⊢
    refine past.joined_until_left joined fun other member leaves same => ?_
    rcases List.mem_append.mp member with recent | last
    · refine foreign other recent ?_
      have task := every other (by simp [recent]) (by
        cases op : other.op <;> rw [op] at leaves <;> first | rfl | cases leaves)
      simp [same, task]
    · rw [List.mem_singleton.mp last, looks] at leaves
      cases leaves

/-- What a step can do to the device capability of one connection. -/
theorem LedgerStep.deviceCap {room after : RoomState} {actor : ConnId} {op : Operation}
    {accepted : Option SignedAction} (step : LedgerStep hub room actor op accepted after)
    (known : after.deviceCapsByConn.get? connId ≠ none) :
    (room.deviceCapsByConn.get? connId ≠ none ∧ (op.isDisconnect = true → actor ≠ connId)) ∨
      ∃ cap, op = .deviceCapability cap ∧ actor = connId := by
  have kept : ∀ {op : Operation}, after.deviceCapsByConn = room.deviceCapsByConn →
      op.isDisconnect = false → (room.deviceCapsByConn.get? connId ≠ none ∧
        (op.isDisconnect = true → actor ≠ connId)) ∨
          ∃ cap, op = .deviceCapability cap ∧ actor = connId := by
    intro op same stays
    rw [same] at known
    exact .inl ⟨known, fun leaves => by simp [stays] at leaves⟩
  cases step with
  | kept stays same => exact kept (congrArg Ledger.deviceCaps same) stays
  | left same =>
      have caps : after.deviceCapsByConn = room.deviceCapsByConn.remove actor :=
        congrArg Ledger.deviceCaps same
      rw [caps, HashMap.get?_remove] at known
      split at known
      · exact absurd rfl known
      · next other => exact .inl ⟨known, fun _ => Ne.symm other⟩
  | @capable cap _ same =>
      have caps : after.deviceCapsByConn = room.deviceCapsByConn.put actor cap :=
        congrArg Ledger.deviceCaps same
      rw [caps, HashMap.get?_put] at known
      split at known
      · next own => exact .inr ⟨cap, rfl, own.symm⟩
      · exact .inl ⟨known, nofun⟩
  | joined same | roleGrant _ _ same | roleRevoke _ _ same | policy _ _ _ same =>
      exact kept (congrArg Ledger.deviceCaps same) rfl
  | keyEpoch _ _ _ _ same | ackEpoch _ _ _ _ _ _ same | moderated _ _ _ _ same =>
      exact kept (congrArg Ledger.deviceCaps same) rfl
  | admitted _ _ _ same | denied _ _ _ _ _ same =>
      exact kept (congrArg Ledger.deviceCaps same) rfl

/-- Everything the tables say about who is there. -/
structure Intact (room : RoomState) : Prop where
  registered : Registered room
  staffed : Staffed (groupOf room)
  capable : ∀ connId, room.deviceCapsByConn.get? connId ≠ none → room.helloSeen connId = true

theorem intact_emptyRoom (hub : HubState) : Intact (emptyRoom hub) where
  registered := registered_emptyRoom hub
  staffed := ⟨nofun, fun connId bound => by simp [groupOf, emptyRoom] at bound⟩
  capable _ known := absurd rfl known

theorem Lawful.intact {earlier : List Event} {event : Event} {after : RoomState}
    (lawful : Lawful hub earlier event) (left : (event.after hub).room = some after)
    (keeps : ∀ before, event.before.room = some before →
      event.op.misplacesHost event.connId before = false)
    (stores : ∀ cap, event.op = .deviceCapability cap →
      event.before.hasJoined event.connId = true)
    (intact : Intact (event.before.opened hub)) : Intact after where
  registered := lawful.registered left intact.registered
  staffed := (lawful.step left).staffed intact.staffed (keepsHost left keeps)
  capable connId known := by
    rcases (Event.ledgerStep left).deviceCap known with ⟨was, other⟩ | ⟨cap, op, rfl⟩
    · exact lawful.joined_stays left intact.registered.apart (intact.capable connId was) other
    · obtain ⟨room, found, joined⟩ := HubRoom.hasJoined_iff.mp (stores cap op)
      refine lawful.joined_stays left intact.registered.apart ?_ fun leaves => ?_
      · rw [HubRoom.opened_of_some found]
        exact joined
      · rw [op] at leaves
        cases leaves

theorem Intact.referential {room : RoomState} (intact : Intact room) : Referential room := by
  have here : ∀ {connId}, connId ∈ (groupOf room).present →
      room.participants.containsKey connId = true := by
    rintro connId ⟨_, known⟩
    obtain ⟨participant, found, _⟩ := members_groupOf_eq_some.mp known
    simp [HashMap.containsKey, found]
  have joined : ∀ {connId}, room.helloSeen connId = true →
      room.participants.containsKey connId = true := by
    intro connId hello
    exact here (joined_groupOf.mpr hello).mem_present
  refine ⟨fun connId hosts => here (intact.staffed.host connId hosts),
    fun connId bound => here (intact.staffed.coHosts bound), ?_, ?_, ?_⟩
  · exact fun connId known => joined (intact.capable connId (Option.isSome_iff_ne_none.mp known))
  · exact fun connId known =>
      joined (intact.registered.published connId (Option.isSome_iff_ne_none.mp known))
  · intro connId known
    obtain ⟨ack, found⟩ := Option.isSome_iff_exists.mp known
    exact joined (intact.registered.published connId (intact.registered.acked connId ack found).1)

/-- If no operation misplaces the host role, then everything that the tables of a
reached room name is one of its participants. -/
theorem tables_referential {history : List Event} {system : System}
    (run : Run hub history system)
    (keeps : ∀ event ∈ history, ∀ before, event.before.room = some before →
      event.op.misplacesHost event.connId before = false)
    {room : RoomState} (found : system.shared.room = some room) : Referential room := by
  have intact : Intact (roomAfter hub history) := by
    refine Trace.room (fun past room => (∀ event ∈ past, event ∈ history) → Intact room)
      (fun _ _ => intact_emptyRoom hub) ?_ run.trace.1 fun _ member => member
    intro earlier event after _ lawful _ ih left among
    have happened := among event List.mem_cons_self
    exact lawful.intact left (keeps event happened) (fun _ => run.stores_joined happened)
      (ih fun other member => among other (List.mem_cons_of_mem _ member))
  rw [roomAfter_eq run found] at intact
  exact intact.referential

end Runs

def capabilityOfBob : KaigiFrame :=
  .deviceCapability {
    reportedAtMs := 1
    participantId := "bob@sora"
    codecs := ["av1"]
    hdrCapture := false
    hdrRender := false
    maxVideoStreams := 1 }

def tablesHub : HubState :=
  scriptedHub [helloAs "alice@sora", helloAs "bob@sora", bobCoHostGrant, capabilityOfBob]

/-- Alice hosts and makes bob a co-host, who reports the capabilities of his device. -/
def tablesScript : List Move :=
  [.connect 1 0, .connect 2 0] ++ sendsFrame 1 0 1 28 ++ sendsFrame 2 1 2 30 ++
    sendsFrame 1 2 3 18 ++ sendsFrame 2 3 4 9

theorem tables_referential_script :
    ∃ history system room, Run tablesHub history system ∧ system.shared.room = some room ∧
      room.hostConnId = some 1 ∧ room.coHostConnIds.contains 2 = true ∧
      room.deviceCapsByConn.containsKey 2 = true ∧ room.e2eeEpochs.containsKey 2 = true ∧
      Referential room := by
  obtain ⟨history, system, room, run, found, checks⟩ := Run.of_played_room tablesHub tablesScript
    (fun history room => room.hostConnId == some 1 && room.coHostConnIds.contains 2 &&
      room.deviceCapsByConn.containsKey 2 && room.e2eeEpochs.containsKey 2 &&
        history.all fun event => event.before.room.all fun before =>
          !event.op.misplacesHost event.connId before) (by decide +kernel)
  simp only [Bool.and_eq_true, List.all_eq_true, Option.all_eq_true, Bool.not_eq_true',
    beq_iff_eq] at checks
  obtain ⟨⟨⟨⟨hosts, coHosts⟩, capable⟩, published⟩, keeps⟩ := checks
  exact ⟨history, system, room, run, found, hosts, coHosts, capable, published,
    tables_referential run keeps found⟩

def denyBob : KaigiFrame :=
  .moderation { sentAtMs := 1, target := .participant "bob@sora", action := .denyFromWaiting }

def orphanHub : HubState :=
  scriptedHub [helloAs "alice@sora", waitingRoomPolicy, helloAs "bob@sora", denyBob]

/-- Bob waits and is denied, alice leaves and so closes the room. Connection 3 opens it
again, and bob, who is still connected, says hello once more. -/
def orphanScript : List Move :=
  [.connect 1 0, .connect 2 0] ++ sendsFrame 1 0 1 28 ++ sendsFrame 1 1 2 13 ++
    sendsFrame 2 2 3 11 ++ sendsFrame 1 3 4 11 ++ closes 1 5 4 ++ [.connect 3 6] ++
      sendsFrame 2 2 7 4

theorem tables_notReferential :
    ¬ ∀ (hub : HubState) (history : List Event) (system : System) (room : RoomState),
      Run hub history system → system.shared.room = some room → Referential room := by
  intro claimed
  obtain ⟨history, system, room, run, found, checks⟩ := Run.of_played_room orphanHub orphanScript
    (fun _ room => room.hostConnId == some 2 && !room.participants.containsKey 2)
    (by decide +kernel)
  simp only [Bool.and_eq_true, Bool.not_eq_true', beq_iff_eq] at checks
  obtain ⟨hosts, absent⟩ := checks
  rw [(claimed orphanHub history system room run found).host 2 hosts] at absent
  cases absent

end Kaigi.Hub
