import Kaigi.Hub.ActionClocks
import Kaigi.Hub.KeyRelays

/-!
# Rotations of the group key

Every rotation draws the next permissions epoch and lists the members of the
anonymous room. Whoever enters or leaves the room brings about a rotation.
-/

set_option autoImplicit false

namespace Kaigi.Hub

open Collections Wire Interleaving Authority

/-! ### Members -/

/-- A joined anonymous participant of the room has the handle. -/
def RoomState.HasMember (room : RoomState) (handle : String) : Prop :=
  ∃ connId participant, room.participants.get? connId = some participant ∧
    participant.isAnonymous = true ∧ participant.participantHandle = some handle

/-- The handles of the joined anonymous participants, in iteration order. -/
def RoomState.memberHandles (room : RoomState) : List String :=
  (room.participants.values.filter (·.isAnonymous)).filterMap (·.participantHandle)

section Members

variable {hub : HubState} {room : RoomState} {handle : String}

theorem RoomState.mem_memberHandles : handle ∈ room.memberHandles ↔ room.HasMember handle := by
  simp only [RoomState.memberHandles, List.mem_filterMap, List.mem_filter]
  constructor
  · rintro ⟨participant, ⟨among, anonymous⟩, named⟩
    obtain ⟨connId, found⟩ := HashMap.mem_values.mp among
    exact ⟨connId, participant, found, anonymous, named⟩
  · rintro ⟨connId, participant, found, anonymous, named⟩
    exact ⟨participant, ⟨HashMap.mem_values.mpr ⟨connId, found⟩, anonymous⟩, named⟩

theorem RoomState.memberHandles_eq : room.memberHandles =
    room.participants.values.filterMap fun participant =>
      if participant.isAnonymous then participant.participantHandle else none :=
  List.filterMap_filter ..

theorem RoomState.nodup_memberHandles (unique : UniqueHandles room) :
    room.memberHandles.Nodup := by
  rw [RoomState.memberHandles_eq]
  refine HashMap.nodup_filterMap_values ?_
  intro connId other participant current handle found foundToo named namedToo
  simp only [Option.ite_none_right_eq_some] at named namedToo
  exact unique connId other participant current handle found foundToo
    (Bool.and_eq_true_iff.mp named.1).1 (Bool.and_eq_true_iff.mp namedToo.1).1 named.2 namedToo.2

/-- The roster lists the handles of the members in order. -/
theorem anonRosterFrameLocked_handles {usable : String → Prop}
    (credentialed : Credentialed usable room) (atMs : Nat) :
    (anonRosterFrameLocked room atMs).participants.map (·.participantHandle) =
      room.memberHandles.insertionSort (· ≤ ·) := by
  unfold anonRosterFrameLocked
  dsimp only
  rw [List.map_insertionSort _ (· ≤ ·) _ _ fun _ _ _ _ => Iff.rfl, List.map_filterMap,
    RoomState.memberHandles_eq]
  refine congrArg (List.insertionSort (· ≤ ·)) (List.filterMap_congr fun participant among => ?_)
  obtain ⟨connId, found⟩ := HashMap.mem_values.mp among
  cases credentialed connId participant found with
  | transparent _ unnamed => simp [unnamed]
  | anonymous anonymous joined _ named known =>
      simp [named, known, ParticipantState.isAnonymous, anonymous, joined]

/-- The members of a rotation are those of the room. -/
theorem buildAnonGroupKeyRotateFrame_members (atMs : Nat) :
    (buildAnonGroupKeyRotateFrame hub room atMs).2.memberHandles =
      room.memberHandles.insertionSort (· ≤ ·) := by
  unfold buildAnonGroupKeyRotateFrame RoomState.memberHandles ParticipantState.isAnonymous
  simp only [Bool.and_comm]
  rfl

/-- A rotation is built about the room that its event leaves. -/
theorem Event.rotates_room {event : Event} {rotate : AnonGroupKeyRotateFrame}
    (rotates : event.rotates hub = some rotate) :
    ∃ room after, event.before.room = some room ∧ (event.after hub).room = some after ∧
      after.permissionsEpoch = saturatingAdd room.permissionsEpoch 1 ∧
      rotate.epoch = max after.permissionsEpoch 1 ∧
      rotate.memberHandles = after.memberHandles.insertionSort (· ≤ ·) := by
  obtain ⟨room, entered, nowMs, found, left, epoch, rfl⟩ := Event.rotates_built rotates
  refine ⟨room, _, found, left, ?_, rfl, buildAnonGroupKeyRotateFrame_members nowMs⟩
  rw [← epoch]
  rfl

end Members

/-! ### Epochs -/

section Epochs

variable {hub : HubState} {later earlier : List Event}

theorem Lawful.epoch_advances {event : Event} {after : RoomState}
    (lawful : Lawful hub earlier event)
    (left : (event.after hub).room = some after) :
    Advances u64Max (event.before.opened hub).permissionsEpoch after.permissionsEpoch :=
  (lawful.step left).advances

theorem Trace.epoch_bounded (trace : Trace hub earlier) :
    (roomAfter hub earlier).permissionsEpoch ≤ u64Max :=
  Trace.room (fun _ room => room.permissionsEpoch ≤ u64Max) (fun _ => Nat.zero_le _)
    (fun _ _ _ _ lawful _ bounded left => (lawful.epoch_advances left bounded).2) trace

/-- The epoch of a room does not go back as long as the room persists. -/
theorem Trace.epoch_grows (trace : Trace hub (later ++ earlier))
    (persists : Persists hub later earlier) {first second : RoomState}
    (was : (sharedAfter hub earlier).room = some first)
    (found : (sharedAfter hub (later ++ earlier)).room = some second) :
    first.permissionsEpoch ≤ second.permissionsEpoch := by
  have bounded := (trace.suffix later).epoch_bounded
  rw [roomAfter_of_some was] at bounded
  refine (Trace.persisting (fun _ room => first.permissionsEpoch ≤ room.permissionsEpoch ∧
    room.permissionsEpoch ≤ u64Max) ?_ ?_ trace persists found).1
  · intro room same
    rw [was] at same
    cases same
    exact ⟨Nat.le_refl _, bounded⟩
  · rintro rest event room after lawful _ before left ⟨grown, below⟩
    have advances := lawful.epoch_advances left
    rw [HubRoom.opened_of_some before] at advances
    exact ⟨grown.trans (advances below).1, (advances below).2⟩

/-- A later rotation of a room has a later epoch. -/
theorem Trace.rotations_grow {middle older : List Event} {first second : Event}
    {was now : AnonGroupKeyRotateFrame} {room : RoomState}
    (trace : Trace hub (second :: (middle ++ first :: older)))
    (persists : Persists hub middle (first :: older))
    (rotated : first.rotates hub = some was) (rotates : second.rotates hub = some now)
    (found : second.before.room = some room) (below : room.permissionsEpoch < u64Max) :
    was.epoch < now.epoch := by
  obtain ⟨_, left, _, leaves, bumped, epoch, _⟩ := Event.rotates_room rotated
  obtain ⟨before, _, present, _, drawn, later, _⟩ := Event.rotates_room rotates
  rw [found] at present
  cases present
  cases trace with
  | step past same _ =>
      have grows : left.permissionsEpoch ≤ room.permissionsEpoch :=
        past.epoch_grows persists leaves (same ▸ found)
      rw [epoch, later, drawn, saturatingAdd, Nat.min_eq_left below]
      rw [saturatingAdd] at bumped
      have positive : 1 ≤ left.permissionsEpoch := by
        rw [bumped]
        exact Nat.le_min.mpr ⟨Nat.le_add_left _ _, by decide⟩
      omega

end Epochs

/-! ### Changes of the members -/

section Changes

variable {hub : HubState} {earlier : List Event} {event : Event} {after : RoomState}
  {handle : String}

/-- Whoever is a member after an event was one before, or its own anonymous hello has
rotated the key. -/
theorem Lawful.enters {usable : String → Prop} (lawful : Lawful hub earlier event)
    (credentialed : Credentialed usable (event.before.opened hub))
    (left : (event.after hub).room = some after) (member : after.HasMember handle) :
    (event.before.opened hub).HasMember handle ∨ ∃ rotate, event.rotates hub = some rotate := by
  obtain ⟨connId, new, found, anonymous, named⟩ := member
  cases lawful.introduced left found with
  | @before old was keeps =>
      have called := keeps.handle.symm.trans named
      obtain ⟨hidden, joined, _⟩ := (credentialed connId old was).named called
      exact .inl ⟨connId, old, was, by simp [ParticipantState.isAnonymous, hidden, joined], called⟩
  | transparent transparent => simp [ParticipantState.isAnonymous, transparent] at anonymous
  | @bound called key old own binds was _ _ _ _ newNamed =>
      rw [named] at newNamed
      cases newNamed
      obtain ⟨room, present, opened⟩ := HubRoom.opened_found was
      rw [opened] at binds was ⊢
      unfold Operation.binds at binds
      split at binds
      · next frame nowMs rosterAtMs op =>
          split at binds
          · next roster update rotate accepted =>
              exact .inr ⟨rotate, by simp [Event.rotates, present, op, accepted, own]⟩
          · cases binds
          · cases binds
      · next update _ =>
          rcases groupKeyUpdateSection_cases room connId update with ⟨_, refused⟩ |
            ⟨participant, known, joined, hidden, sender, _⟩
          · split at binds
            · next relays => exact absurd relays refused
            all_goals cases binds
          · refine .inl ⟨connId, participant, known, ?_, ?_⟩
            · simp [ParticipantState.isAnonymous, hidden, joined]
            · split at binds
              · cases binds
                exact sender
              all_goals cases binds
      · cases binds

/-- A member stays until it leaves the anonymous room. -/
theorem Lawful.exits {usable : String → Prop} (lawful : Lawful hub earlier event)
    (separated : event.before.Separated)
    (credentialed : Credentialed usable (event.before.opened hub))
    (left : (event.after hub).room = some after)
    (member : (event.before.opened hub).HasMember handle) :
    after.HasMember handle ∨ ∃ room, event.before.room = some room ∧
      event.op.leavesAnonymously event.connId room = true := by
  obtain ⟨connId, old, was, anonymous, named⟩ := member
  obtain ⟨hidden, joined, admitted, _⟩ := (credentialed connId old was).named named
  have apart : ModeSeparated (groupOf (event.before.opened hub)) := separated.opened
  have notPlain : (event.before.opened hub).anonymousMode = false → old.anonymousMode = false :=
    fun mode => apart.transparent mode connId _ (members_groupOf was)
  obtain ⟨room, present, opened⟩ := HubRoom.opened_found was
  by_cases leaves : event.op.isDisconnect = true ∧ event.connId = connId
  · obtain ⟨disconnects, rfl⟩ := leaves
    refine .inr ⟨room, present, ?_⟩
    rw [opened] at notPlain
    obtain ⟨actor, task, op, state⟩ := event
    dsimp only at disconnects present left notPlain ⊢
    cases op with
    | disconnect deltaAtMs leftAtMs =>
        change (state.room.bind fun room =>
          (disconnectSection room actor deltaAtMs leftAtMs).1) = some after at left
        rw [present, Option.bind_some] at left
        obtain ⟨kept, mode⟩ := disconnectSection_stays left
        have anonymousRoom : room.anonymousMode = true := by
          by_contra plain
          rw [notPlain (Bool.eq_false_of_not_eq_true plain)] at hidden
          cases hidden
        simp [Operation.leavesAnonymously, kept, mode, anonymousRoom]
    | _ => cases disconnects
  · have remains := (lawful.step left).remains (members_groupOf was) admitted fun request =>
      leaves (Operation.leaves request)
    obtain ⟨_, found⟩ := Option.isSome_iff_exists.mp remains
    obtain ⟨new, stays, _⟩ := members_groupOf_eq_some.mp found
    cases lawful.introduced left stays with
    | before same keeps =>
        rw [was] at same
        cases same
        refine .inl ⟨connId, new, stays, ?_, keeps.handle.trans named⟩
        simp [ParticipantState.isAnonymous, keeps.anonymous, hidden, keeps.joined joined]
    | transparent _ _ fresh =>
        rcases fresh with mode | absent
        · rw [notPlain mode] at hidden
          cases hidden
        · rw [was] at absent
          cases absent
    | bound _ _ same unchanged newAnonymous newJoined _ newNamed =>
        rw [was] at same
        cases same
        rw [← unchanged handle named] at newNamed
        exact .inl ⟨connId, new, stays,
          by simp [ParticipantState.isAnonymous, newAnonymous, newJoined], newNamed⟩

end Changes

/-! ### Telling everybody -/

section Telling

variable {hub : HubState} {connId : ConnId}

/-- The operations that may rotate the key. -/
def Operation.rotatesKey : Operation → Bool
  | .anonHello _ _ _ | .groupKeyRotate _ => true
  | _ => false

theorem plumbing_rotatesKey : Plumbing fun op => op.rotatesKey = false :=
  ⟨rfl, fun _ => rfl, fun _ _ => rfl, fun _ _ => rfl⟩

theorem relays_rotatesKey (frame : KaigiFrame) : Relays (fun op => op.rotatesKey = false) frame :=
  ⟨rfl, fun _ => rfl⟩

theorem Event.rotates_rotatesKey {event : Event} {rotate : AnonGroupKeyRotateFrame}
    (rotates : event.rotates hub = some rotate) : event.op.rotatesKey = true := by
  obtain ⟨room, _, rotates⟩ := Option.bind_eq_some_iff.mp rotates
  cases op : event.op with
  | anonHello | groupKeyRotate => rfl
  | _ => rw [op] at rotates; cases rotates

/-- Every rotation is sent to everybody. -/
def rotateDuty (hub : HubState) : Duty AnonGroupKeyRotateFrame where
  asks := Operation.rotatesKey
  plumbing := plumbing_rotatesKey
  relays := relays_rotatesKey
  connect _ := rfl
  pong _ _ := rfl
  calls event _ rotate := event.rotates hub = some rotate
  calls_asks _ _ _ := Event.rotates_rotatesKey
  speaks frame rotate := frame = .anonGroupKeyRotate rotate

theorem performs_unrotated {frame : KaigiFrame} (other : ∀ hello, frame ≠ .anonHello hello) :
    (handleFrame hub connId frame).Performs fun op => op.rotatesKey = false := by
  refine (performs_handleFrame frame).mono ?_
  rintro op (plumbing | own)
  · cases op with
    | read | lookup | fanout | backpressure | trySend => rfl
    | _ => cases plumbing
  · cases own with
    | anonHello => exact absurd rfl (other _)
    | _ => rfl

/-- A broadcast of the rotation that its event has built settles it. -/
theorem settles_rotation {event : Event} {rotate : AnonGroupKeyRotateFrame}
    (rotates : event.rotates hub = some rotate) :
    (rotateDuty hub).Settles hub connId (fun _ => True)
      (fun target topic => False ∨ (rotateDuty hub).calls event target topic) (fun _ _ => False)
      (broadcastFrame hub (.anonGroupKeyRotate rotate)) := by
  refine (Duty.settles_broadcastFrame _ (fun _ _ _ => trivial) fun _ _ => trivial).mono
    (fun _ _ => id) ?_
  rintro target topic ⟨impossible | called, untold⟩
  · exact impossible
  · have same : some rotate = some topic := rotates.symm.trans called
    cases same
    exact untold rfl

/-- An event that rotates nothing calls for nothing. -/
theorem settles_unrotated {Value : Type} {program : Handler Value} {event : Event}
    (silent : event.rotates hub = none)
    (performs : program.Performs fun op => op.rotatesKey = false) :
    (rotateDuty hub).Settles hub connId (fun _ => True)
      (fun target topic => False ∨ (rotateDuty hub).calls event target topic) (fun _ _ => False)
      program := by
  have settles :
      (rotateDuty hub).Settles hub connId (fun _ => True) (fun _ _ => False) (fun _ _ => False)
      program := Duty.settles_of_performs performs fun _ _ => trivial
  refine settles.mono ?_ fun _ _ => False.elim
  rintro target topic (impossible | called)
  · exact impossible
  · have same : none = some topic := silent.symm.trans called
    cases same

theorem rotates_handleAnonHello (hello : AnonHelloFrame) :
    (rotateDuty hub).Settles hub connId (fun _ => True) (fun _ _ => False) (fun _ _ => False)
      (handleAnonHello hub connId hello) := by
  have refused : ∀ message, (sendError hub connId message).Performs
      fun op => op.rotatesKey = false := performs_sendError plumbing_rotatesKey connId
  unfold handleAnonHello
  split
  · exact Duty.settles_of_performs (refused _) fun _ _ => trivial
  · split
    · exact Duty.settles_of_performs (refused _) fun _ _ => trivial
    · refine Duty.settles_nowMs.bind fun now => Duty.settles_nowMs.bind fun rosterAtMs =>
        Duty.settles_critical fun state => ?_
      cases found : state.room with
      | none => exact settles_unrotated (by simp [Event.rotates, found]) trivial
      | some room =>
          rw [Option.map_some, Option.getD_some]
          cases outcome : (anonHelloSection hub room connId hello now rosterAtMs).2 with
          | ignored =>
              exact settles_unrotated (by simp [Event.rotates, found, outcome]) trivial
          | rejected message =>
              exact settles_unrotated (by simp [Event.rotates, found, outcome]) (refused message)
          | accepted roster update rotate =>
              have first : (sendFrameTo hub connId (.anonRoster roster)).Performs
                  fun op => op.rotatesKey = false :=
                performs_sendFrameTo plumbing_rotatesKey ((relays_rotatesKey _).send connId)
              have second : (broadcastFrame hub (.groupKeyUpdate update)).Performs
                  fun op => op.rotatesKey = false :=
                performs_broadcastFrame plumbing_rotatesKey (relays_rotatesKey _)
              exact (Duty.settles_of_performs first fun _ _ => trivial).bind fun _ =>
                (Duty.settles_of_performs second fun _ _ => trivial).bind fun _ =>
                  settles_rotation (by simp [Event.rotates, found, outcome])

theorem rotates_announceAnonymousLeave (handle : Option String) :
    (rotateDuty hub).Settles hub connId (fun _ => True) (fun _ _ => False) (fun _ _ => False)
      (announceAnonymousLeave hub handle) := by
  have rotation :
      (rotateDuty hub).Settles hub connId (fun _ => True) (fun _ _ => False) (fun _ _ => False)
      (rotateGroupKey hub) := by
    refine Duty.settles_nowMs.bind fun now => Duty.settles_critical fun state => ?_
    cases found : state.room with
    | none => exact settles_unrotated (by simp [Event.rotates, found]) trivial
    | some room => exact settles_rotation (by simp [Event.rotates, found])
  have broadcasts : ∀ frame, (broadcastFrame hub frame).Performs fun op => op.rotatesKey = false :=
    fun frame => performs_broadcastFrame plumbing_rotatesKey (relays_rotatesKey frame)
  refine Duty.settles_nowMs.bind fun rosterAtMs =>
    (Duty.settles_of_performs (performs_critical rfl) fun _ _ => trivial).bind fun roster =>
      (Duty.settles_of_performs (broadcasts _) fun _ _ => trivial).bind fun _ => ?_
  cases handle with
  | none => exact rotation
  | some handle =>
      exact Duty.settles_nowMs.bind fun _ =>
        (Duty.settles_of_performs (broadcasts _) fun _ _ => trivial).bind fun _ => rotation

theorem rotates_handleDisconnect :
    (rotateDuty hub).Settles hub connId (fun _ => True) (fun _ _ => False) (fun _ _ => False)
      (handleDisconnect hub connId) := by
  refine Duty.settles_nowMs.bind fun deltaAtMs => Duty.settles_nowMs.bind fun leftAtMs =>
    (Duty.settles_of_performs (performs_critical rfl) fun _ _ => trivial).bind fun outcome => ?_
  cases outcome with
  | none => exact Duty.settles_done ()
  | some outcome =>
      dsimp only
      split
      · exact Duty.settles_done ()
      · split
        · exact rotates_announceAnonymousLeave _
        · refine Duty.settles_of_performs (performs_announceLeave ?_ outcome) fun _ _ => trivial
          intro op routine
          cases op with
          | anonHello | groupKeyRotate => cases routine
          | _ => rfl

/-- Every handler sends its rotations to everybody. -/
theorem rotateDuty_kept (hub : HubState) (connId : ConnId) :
    (rotateDuty hub).Kept hub connId fun _ => True where
  serves frame := by
    cases frame with
    | anonHello hello => exact rotates_handleAnonHello hello
    | _ => exact Duty.settles_of_performs (performs_unrotated nofun) fun _ _ => trivial
  leaves := rotates_handleDisconnect
  stops _ _ := trivial

end Telling

/-! ### Rotating after a leave -/

section Leaving

variable {hub : HubState} {connId : ConnId} {past : List Event} {pending weaker : Prop}

def Operation.isRotate : Operation → Bool
  | .groupKeyRotate _ => true
  | _ => false

/-- Every anonymous leave in the past of a task was followed by a rotation, apart from one
that is `pending`. -/
def RotatesAfterLeave (past : List Event) (pending : Prop) : Prop :=
  ∀ later event earlier room, past = later ++ event :: earlier → event.before.room = some room →
    event.op.leavesAnonymously event.connId room = true →
      (∃ answer ∈ later, answer.op.isRotate = true) ∨ pending

theorem RotatesAfterLeave.cons (rotates : RotatesAfterLeave past pending) {event : Event}
    (leaves : ∀ room, event.before.room = some room →
      event.op.leavesAnonymously event.connId room = true → weaker)
    (imp : pending → weaker) : RotatesAfterLeave (event :: past) weaker := by
  intro later other earlier room split found left
  cases later with
  | nil =>
      obtain ⟨rfl, rfl⟩ := List.cons.inj split
      exact .inr (leaves room found left)
  | cons latest rest =>
      obtain ⟨rfl, rfl⟩ := List.cons.inj split
      rcases rotates rest other earlier room rfl found left with ⟨answer, member, rotated⟩ | left
      · exact .inl ⟨answer, List.mem_cons_of_mem _ member, rotated⟩
      · exact .inr (imp left)

/-- A rotation answers whatever came before. -/
theorem rotatesAfterLeave_rotation {event : Event} (rotates : event.op.isRotate = true)
    (past : List Event) : RotatesAfterLeave (event :: past) False := by
  intro later other earlier room split _ left
  cases later with
  | nil =>
      obtain ⟨rfl, rfl⟩ := List.cons.inj split
      cases op : event.op with
      | groupKeyRotate => rw [op] at left; cases left
      | _ => rw [op] at rotates; cases rotates
  | cons latest rest =>
      obtain ⟨rfl, _⟩ := List.cons.inj split
      exact .inl ⟨event, List.mem_cons_self, rotates⟩

/-- The contract of a task that only has to end well. -/
abbrev freeContract (hub : HubState) (connId : ConnId) :=
  ownContract hub connId fun _ _ _ => True

theorem plumbing_isDisconnect : Plumbing fun op => op.isDisconnect = false :=
  ⟨rfl, fun _ => rfl, fun _ _ => rfl, fun _ _ => rfl⟩

theorem performs_staying (frame : KaigiFrame) :
    (handleFrame hub connId frame).Performs fun op => op.isDisconnect = false := by
  refine (performs_handleFrame frame).mono ?_
  rintro op (plumbing | own)
  · cases op with
    | read | lookup | fanout | backpressure | trySend => rfl
    | _ => cases plumbing
  · cases own <;> rfl

theorem meets_staying {Value : Type} {program : Handler Value} {world : World}
    (performs : program.Performs fun op => op.isDisconnect = false)
    (start : RotatesAfterLeave world.own pending) :
    program.Meets (freeContract hub connId) (fun _ later => RotatesAfterLeave later.own pending)
      world := by
  refine performs.keeps ?_ ?_ (fun _ _ _ => trivial) world start
  · intro before after same rotates
    rw [show after.own = before.own from same]
    exact rotates
  · intro op world stays rotates
    refine ⟨trivial, rotates.cons (fun room _ left => ?_) id⟩
    cases op with
    | disconnect => cases stays
    | _ => cases left

theorem meets_rotation {world : World} (handle : Option String) :
    (announceAnonymousLeave hub handle).Meets (freeContract hub connId)
      (fun _ later => RotatesAfterLeave later.own False) world := by
  have broadcasts : ∀ frame world, (broadcastFrame hub frame).Meets (freeContract hub connId)
      (fun _ _ => True) world := fun frame =>
    meets_of_performs (performs_broadcastFrame plumbing_isPlumbing (relays_isPlumbing frame))
      fun _ _ _ _ => trivial
  have rotation : ∀ world, (rotateGroupKey hub).Meets (freeContract hub connId)
      (fun _ later => RotatesAfterLeave later.own False) world := by
    refine fun world => meets_nowMs fun now => meets_critical fun state => ⟨trivial, ?_⟩
    refine meets_staying ?_ (rotatesAfterLeave_rotation rfl _)
    cases state.room with
    | none => trivial
    | some room =>
        exact performs_broadcastFrame plumbing_isDisconnect ⟨rfl, fun _ => rfl⟩
  refine meets_nowMs fun rosterAtMs => meets_critical fun state => ⟨trivial, ?_⟩
  refine (broadcasts _ _).bind fun _ later _ => ?_
  cases handle with
  | none => exact rotation later
  | some handle =>
      exact meets_nowMs fun sentAtMs => (broadcasts _ later).bind fun _ later _ => rotation later

/-- Every connection task rotates the key after it has left an anonymous room. -/
def leaveProtocol (hub : HubState) (connId : ConnId) : Protocol hub connId where
  admits _ _ _ := True
  resting past := RotatesAfterLeave past False
  connects connectedAtMs state := by
    have nothing : RotatesAfterLeave [] False := fun later _ _ _ split => by
      cases later <;> cases split
    exact nothing.cons (fun _ _ left => by cases left) id
  pongs past payload state rotates :=
    ⟨trivial, rotates.cons (fun _ _ left => by cases left) id⟩
  serves frame _ rotates := meets_staying (performs_staying frame) rotates
  leaves world rotates := by
    refine meets_nowMs fun deltaAtMs => meets_nowMs fun leftAtMs =>
      meets_critical fun state => ⟨trivial, ?_⟩
    have silent : (∀ room, state.room = some room →
        (Operation.disconnect deltaAtMs leftAtMs).leavesAnonymously connId room = false) →
        RotatesAfterLeave (⟨connId, .connection, .disconnect deltaAtMs leftAtMs, state⟩ ::
          world.own) False := fun stays =>
      rotates.cons (fun room found left =>
        absurd (left.symm.trans (stays room found)) Bool.true_eq_false.mp) id
    cases found : state.room with
    | none =>
        exact meets_staying trivial (silent fun room present => by simp [found] at present)
    | some room =>
        rw [Option.map_some]
        dsimp only
        split
        · next removed =>
            refine meets_staying trivial (silent fun current present => ?_)
            rw [found] at present
            cases present
            simp [Operation.leavesAnonymously, removed]
        · split
          · exact meets_rotation _
          · next transparent =>
              refine meets_staying (performs_announceLeave ?_ _) (silent fun current present => ?_)
              · intro op routine
                cases op with
                | disconnect => cases routine
                | _ => rfl
              · rw [found] at present
                cases present
                simp [Operation.leavesAnonymously, transparent]

end Leaving

/-! ### Every run -/

/-- The members of an anonymous room are rotated in. -/
structure Rotations (hub : HubState) (history : List Event) (system : System) : Prop where
  grow : ∀ newer second middle first older was now room,
    history = newer ++ second :: (middle ++ first :: older) →
    Persists hub middle (first :: older) → first.rotates hub = some was →
    second.rotates hub = some now → second.before.room = some room →
    room.permissionsEpoch < u64Max → was.epoch < now.epoch
  members : ∀ event ∈ history, ∀ rotate, event.rotates hub = some rotate →
    ∃ after, (event.after hub).room = some after ∧ rotate.memberHandles.Pairwise (· < ·) ∧
      (∀ handle, handle ∈ rotate.memberHandles ↔ after.HasMember handle) ∧
      ∀ atMs, (anonRosterFrameLocked after atMs).participants.map (·.participantHandle) =
        rotate.memberHandles
  follows : ∀ newer event older after handle, history = newer ++ event :: older →
    (event.after hub).room = some after →
    ¬ (after.HasMember handle ↔ (event.before.opened hub).HasMember handle) →
    Persists hub newer (event :: older) →
    (∀ connection, system.connections event.connId = some connection →
      connection.phase.isSettled = true) →
    ∃ answer ∈ newer ++ [event], answer.connId = event.connId ∧
      ∃ rotate, answer.rotates hub = some rotate ∧
        ∀ target, ∃ told ∈ newer, told.connId = event.connId ∧
          (told.op = .trySend target (.binary (.anonGroupKeyRotate rotate)) ∨
            told.before.hasJoined target = false)

section Runs

variable {hub : HubState} {history newer older : List Event} {system : System}

theorem own_split {connId : ConnId} {event : Event} (same : event.connId = connId)
    (task : event.task = .connection) :
    own connId .connection (newer ++ event :: older) =
      own connId .connection newer ++ event :: own connId .connection older := by
  obtain ⟨actor, _, op, before⟩ := event
  cases same
  cases task
  rw [own_append, own_cons_self]

theorem Trace.sorted_members (trace : Trace hub history) {event : Event}
    {rotate : AnonGroupKeyRotateFrame} (happened : event ∈ history)
    (rotates : event.rotates hub = some rotate) :
    ∃ after, (event.after hub).room = some after ∧ rotate.memberHandles.Pairwise (· < ·) ∧
      (∀ handle, handle ∈ rotate.memberHandles ↔ after.HasMember handle) ∧
      ∀ atMs, (anonRosterFrameLocked after atMs).participants.map (·.participantHandle) =
        rotate.memberHandles := by
  obtain ⟨newer, older, rfl⟩ := List.append_of_mem happened
  obtain ⟨_, after, _, left, _, _, listed⟩ := Event.rotates_room rotates
  have opened : roomAfter hub (event :: older) = after := roomAfter_of_some left
  have unique : UniqueHandles after := opened ▸ (trace.suffix newer).uniqueHandles
  have credentialed : Credentialed (fun _ => True) after :=
    opened ▸ (trace.suffix newer).credentialed fun _ _ _ _ _ => trivial
  refine ⟨after, left, ?_, fun handle => ?_, fun atMs => ?_⟩
  · rw [listed]
    have distinct : (after.memberHandles.insertionSort (· ≤ ·)).Nodup :=
      (List.perm_insertionSort (· ≤ ·) _).nodup_iff.mpr (RoomState.nodup_memberHandles unique)
    have sorted : (after.memberHandles.insertionSort (· ≤ ·)).Pairwise (· ≤ ·) :=
      List.pairwise_insertionSort (· ≤ ·) _
    exact sorted.imp₂ (fun _ _ below different => Std.lt_of_le_of_ne below different) distinct
  · rw [listed, List.mem_insertionSort, RoomState.mem_memberHandles]
  · rw [listed, anonRosterFrameLocked_handles credentialed]

/-- Once its task rests, everybody has been sent a rotation. -/
theorem Run.told_rotation (run : Run hub history system) {event : Event}
    {rotate : AnonGroupKeyRotateFrame} (split : history = newer ++ event :: older)
    (settles : ∀ connection, system.connections event.connId = some connection →
      connection.phase.isSettled = true)
    (task : event.task = .connection) (rotates : event.rotates hub = some rotate)
    (target : ConnId) : ∃ told ∈ newer, told.connId = event.connId ∧
      (told.op = .trySend target (.binary (.anonGroupKeyRotate rotate)) ∨
        told.before.hasJoined target = false) := by
  have settled := (rotateDuty_kept hub event.connId).settled run settles
  rw [split, own_split rfl task] at settled
  rcases settled _ event _ rfl target rotate rotates with ⟨told, member, answered⟩ | impossible
  · obtain ⟨happened, same, _⟩ := mem_own.mp member
    refine ⟨told, happened, same, answered.imp ?_ id⟩
    rintro ⟨_, sends, rfl⟩
    exact sends
  · exact impossible.elim

/-- In every run rotations list the members, in the order of their epochs, and follow
every change of the members. -/
theorem groupKey_rotates (run : Run hub history system) : Rotations hub history system where
  grow := by
    rintro newer second middle first older was now room rfl persists rotated rotates found below
    exact (run.trace.1.suffix newer).rotations_grow persists rotated rotates found below
  members _ happened _ rotates := run.trace.1.sorted_members happened rotates
  follows := by
    intro newer event older after handle split left changes persists settles
    have trace := run.trace.1
    rw [split] at trace
    obtain ⟨past, before, lawful⟩ := trace.lawful
    have separated : event.before.Separated := before ▸ past.separated
    have credentialed : Credentialed (fun _ => True) (event.before.opened hub) := by
      have known : Credentialed (fun _ => True) (roomAfter hub older) :=
        past.credentialed fun _ _ _ _ _ => trivial
      unfold roomAfter at known
      rwa [← before] at known
    by_cases entered : after.HasMember handle
    · rcases lawful.enters credentialed left entered with was | ⟨rotate, rotates⟩
      · exact absurd (iff_of_true entered was) changes
      · have task : event.task = .connection := by
          refine lawful.ownTask ?_
          have rotates := Event.rotates_rotatesKey rotates
          cases op : event.op with
          | anonHello | groupKeyRotate => rfl
          | _ => rw [op] at rotates; cases rotates
        exact ⟨event, by simp, rfl, rotate, rotates, run.told_rotation split settles task rotates⟩
    · have was : (event.before.opened hub).HasMember handle := by
        by_contra absent
        exact changes (iff_of_false entered absent)
      obtain ⟨room, found, leaves⟩ := (lawful.exits separated credentialed left was).resolve_left
        entered
      have task : event.task = .connection := by
        refine lawful.ownTask ?_
        cases op : event.op with
        | disconnect => rfl
        | _ => rw [op] at leaves; cases leaves
      obtain ⟨answer, member, rotated⟩ : ∃ answer ∈ own event.connId .connection newer,
          answer.op.isRotate = true := by
        have kept := (leaveProtocol hub event.connId).kept run
        cases known : system.connections event.connId with
        | none =>
            have nothing := kept.unborn known
            rw [split, own_split rfl task] at nothing
            simp at nothing
        | some connection =>
            have rests := kept.rests known (settles connection known)
            rw [split, own_split rfl task] at rests
            exact (rests _ event _ room rfl found leaves).resolve_right id
      obtain ⟨happened, same, answerTask⟩ := mem_own.mp member
      obtain ⟨recent, since, rfl⟩ := List.append_of_mem happened
      rw [List.append_assoc, List.cons_append] at split trace
      obtain ⟨_, answerBefore, _⟩ := trace.lawful
      have remains : (sharedAfter hub (since ++ event :: older)).room ≠ none :=
        persists since ((List.suffix_cons answer since).trans (List.suffix_append _ _))
      obtain ⟨current, present⟩ := Option.ne_none_iff_exists'.mp remains
      rw [← answerBefore] at present
      cases op : answer.op with
      | groupKeyRotate nowMs =>
          have rotates : answer.rotates hub =
              some (buildAnonGroupKeyRotateFrame hub current nowMs).2 := by
            simp [Event.rotates, present, op]
          refine ⟨answer, by simp, same, _, rotates, fun target => ?_⟩
          obtain ⟨told, among, own, tells⟩ := run.told_rotation split (same.symm ▸ settles)
            answerTask rotates target
          exact ⟨told, List.mem_append_left _ among, own.trans same, tells⟩
      | _ => rw [op] at rotated; cases rotated

end Runs

/-- Whether the connections of a history rest, and no handler was given up. -/
def System.rests (history : List Event) (system : System) : Bool :=
  history.all fun event =>
    (system.connections event.connId).all fun connection => connection.phase.isSettled

/-- The fox and the owl join, and the owl leaves. -/
def rotationScript : List Move :=
  handlesScript ++ closes 2 3 15

theorem groupKey_rotates_script :
    ∃ history system, Run handlesHub history system ∧ system.rests history = true ∧
      history.filterMap (fun event => (event.rotates handlesHub).map (·.memberHandles)) =
        [["fox"], ["fox", "owl"], ["fox"]] ∧ Rotations handlesHub history system := by
  obtain ⟨history, system, run, checks⟩ := Run.of_played handlesHub rotationScript
    (fun history system => system.rests history &&
      history.filterMap (fun event => (event.rotates handlesHub).map (·.memberHandles)) ==
        [["fox"], ["fox", "owl"], ["fox"]]) (by decide +kernel)
  obtain ⟨rests, rotated⟩ := Bool.and_eq_true_iff.mp checks
  exact ⟨history, system, run, rests, eq_of_beq rotated, groupKey_rotates run⟩

end Kaigi.Hub
