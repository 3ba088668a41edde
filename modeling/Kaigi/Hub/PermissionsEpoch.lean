import Kaigi.Hub.Scripts

/-!
# The permissions epoch

Two permissions snapshots of one connection with the same epoch agree, unless
the host was denied admission in between: its successor is not announced.
-/

set_option autoImplicit false

namespace Kaigi.Hub

open Collections Wire Interleaving Authority

/-- An accepted denial takes the waiting host out of the room, and the smallest
connection id that is left belongs to somebody who has joined. -/
def Operation.succeedsSilently (op : Operation) (connId : ConnId) (room : RoomState) : Bool :=
  match op with
  | .moderation frame _ _ =>
      frame.action == .denyFromWaiting && room.helloSeen connId && canModerateConn room connId &&
        (validateModerationSenderClock room connId frame).isOk &&
          match moderationTargets room connId frame with
          | .ok [target] =>
              room.hostConnId == some target &&
                (room.participants.get? target).any (·.waitingRoomPending) &&
                  (room.participants.remove target).keys.min?.any room.helloSeen
          | _ => false
  | _ => false

/-- Every other operation announces what it changes, or changes nothing. -/
theorem not_silentSuccession {hub : HubState} {connId : ConnId} {op : Operation}
    {state : HubRoom} {after : RoomState} (left : (op.apply hub connId state).room = some after)
    (loud : ∀ room, state.room = some room → op.succeedsSilently connId room = false) :
    groupOf after = groupOf (state.opened hub) ∨
      ¬ SilentSuccession (op.action (state.opened hub) connId) (groupOf (state.opened hub)) := by
  by_cases silent :
    SilentSuccession (op.action (state.opened hub) connId) (groupOf (state.opened hub))
  · left
    obtain ⟨sender, denied, successor, request, hosts, waiting, joined, moderates, least,
      successorJoined⟩ := silent
    have requests := op.requests (state.opened hub) connId
    rw [request] at requests
    cases requests with
    | @deny frame nowMs admitAtMs _ participant denial present named targets =>
        obtain ⟨room, found, rfl⟩ := Option.map_eq_some_iff.mp left
        rw [HubRoom.opened_of_some found] at *
        cases clock : validateModerationSenderClock room connId frame with
        | error message =>
            exact congrArg groupOf (moderationSection_refused clock nowMs admitAtMs)
        | ok accepted =>
            refine absurd (loud room found) ?_
            obtain ⟨participant, stored, waits⟩ := waiting
            obtain ⟨target, targeted, rfl⟩ := members_groupOf_eq_some.mp stored
            unfold Operation.succeedsSilently
            simp only [targets, clock, denial, isLeast_removed least, targeted, Option.any_some,
              show room.hostConnId = some _ from hosts, joined_groupOf.mp joined,
              canModerateConn_iff.mpr moderates, joined_groupOf.mp successorJoined,
              show target.waitingRoomPending = true from waits]
            simp [Except.isOk, Except.toBool]
  · exact .inr silent

/-- What a snapshot says follows from the grants of its connection. -/
theorem permissionsSnapshot_grants {room : RoomState} {connId : ConnId} {atMs : Nat}
    {snapshot : PermissionsSnapshotFrame}
    (taken : permissionsSnapshotForConn room connId atMs = some snapshot) :
    (groupOf room).Joined connId ∧ snapshot.epoch = (groupOf room).epoch ∧
      (snapshot.host = true ↔ (groupOf room).host = some connId) ∧
      (snapshot.coHost = true ↔
        (groupOf room).host ≠ some connId ∧ connId ∈ (groupOf room).coHosts) ∧
      (snapshot.canModerate = true ↔ (groupOf room).Moderates connId) ∧
      snapshot.canRecordLocal = (groupOf room).recording := by
  unfold permissionsSnapshotForConn at taken
  split at taken
  · cases taken
  · next participant found =>
      split at taken
      · cases taken
      · next hello =>
          cases taken
          refine ⟨⟨_, members_groupOf found, by simpa [memberOf] using hello⟩, rfl, ?_, ?_,
            canModerateConn_iff, rfl⟩
          · unfold roleKindForConn
            split
            · next hosts => exact ⟨fun _ => hosts, fun _ => rfl⟩
            · next other =>
                refine ⟨fun impossible => ?_, fun hosts => absurd hosts other⟩
                split at impossible <;> cases impossible
          · unfold roleKindForConn
            split
            · next hosts =>
                exact ⟨fun impossible => (by cases impossible), fun both => absurd hosts both.1⟩
            · next other =>
                split
                · next coHost => exact ⟨fun _ => ⟨other, coHost⟩, fun _ => rfl⟩
                · next neither =>
                    exact ⟨fun impossible => (by cases impossible),
                      fun both => absurd both.2 neither⟩

/-- A connection that is still in the room is up to date with its epoch. -/
theorem Trace.upToDate {hub : HubState} {later earlier : List Event} {room : RoomState}
    (trace : Trace hub (later ++ earlier))
    (loud : ∀ event ∈ later, ∀ before, event.before.room = some before →
      event.op.succeedsSilently event.connId before = false)
    {told : RoomState} (was : (sharedAfter hub earlier).room = some told)
    (found : (sharedAfter hub (later ++ earlier)).room = some room)
    (transparent : room.anonymousMode = false) {connId : ConnId}
    (joined : (groupOf told).Joined connId) (below : told.permissionsEpoch < u64Max)
    (remains : connId ∈ (groupOf room).present) :
    UpToDate u64Max (groupOf told) (groupOf room) connId := by
  induction later generalizing room with
  | nil =>
      rw [show (sharedAfter hub earlier).room = some room from found] at was
      cases was
      exact .refl joined below.le
  | cons event rest ih =>
      rw [List.cons_append] at trace found
      have present : connId ∈ (sharedAfter hub earlier).connections := by
        obtain ⟨member, known, _⟩ := joined
        rw [HubRoom.connections_of_some was]
        exact present_groupOf.mp ⟨member, known⟩
      have stayed : connId ∈ event.before.connections := trace.stayed present <| by
        rw [HubRoom.connections_of_some found]
        exact present_groupOf.mp remains
      obtain ⟨current, before, member⟩ := HubRoom.exists_of_mem_connections stayed
      cases trace with
      | step past same lawful =>
          have opened : event.before.opened hub = current := HubRoom.opened_of_some before
          have step := lawful.step found
          have mode : current.anonymousMode = false := opened ▸ step.transparent transparent
          have orderly : Orderly (groupOf current) := past.orderly (same ▸ before) mode
          have earlierUp := ih past (fun other among => loud other (List.mem_cons_of_mem _ among))
            (same ▸ before) mode (present_groupOf.mpr member)
          rcases not_silentSuccession found (loud event List.mem_cons_self) with
            unchanged | announced
          · rw [unchanged, opened]
            exact earlierUp
          · rw [opened] at step announced
            exact step.upToDate orderly transparent announced earlierUp below remains

/-- Where no denial is silent, snapshots of one connection with the same epoch
agree. -/
theorem permissionsSnapshots_agree {hub : HubState} {later earlier : List Event}
    {system : System} {first second : RoomState} (run : Run hub (later ++ earlier) system)
    (loud : ∀ event ∈ later, ∀ before, event.before.room = some before →
      event.op.succeedsSilently event.connId before = false)
    (was : (sharedAfter hub earlier).room = some first) (found : system.shared.room = some second)
    (transparent : second.anonymousMode = false) {connId : ConnId} {firstAtMs secondAtMs : Nat}
    {told tells : PermissionsSnapshotFrame}
    (taken : permissionsSnapshotForConn first connId firstAtMs = some told)
    (takenLater : permissionsSnapshotForConn second connId secondAtMs = some tells)
    (sameEpoch : tells.epoch = told.epoch) (below : told.epoch < u64Max) :
    tells.host = told.host ∧ tells.coHost = told.coHost ∧
      tells.canModerate = told.canModerate ∧ tells.canRecordLocal = told.canRecordLocal := by
  obtain ⟨trace, shared⟩ := run.trace
  obtain ⟨joined, epoch, host, coHost, moderate, recording⟩ := permissionsSnapshot_grants taken
  obtain ⟨⟨member, stays, _⟩, epochLater, hostLater, coHostLater, moderateLater, recordingLater⟩ :=
    permissionsSnapshot_grants takenLater
  have upToDate := trace.upToDate loud was (shared ▸ found) transparent joined
    (lt_of_eq_of_lt epoch.symm below) ⟨member, stays⟩
  have grants := upToDate.grants (epochLater.symm.trans (sameEpoch.trans epoch))
  refine ⟨?_, ?_, ?_, ?_⟩
  · rw [Bool.eq_iff_iff, host, hostLater]
    exact grants.host
  · rw [Bool.eq_iff_iff, coHost, coHostLater]
    exact and_congr (not_congr grants.host) grants.coHost
  · rw [Bool.eq_iff_iff, moderate, moderateLater]
    exact or_congr grants.host grants.coHost
  · rw [recording, recordingLater]
    exact grants.recording

def permissionsHub : HubState :=
  scriptedHub [helloAs "alice@sora", helloAs "bob@sora", bobCoHostGrant, waitingRoomPolicy,
    helloAs "carol@sora",
    .moderation { sentAtMs := 1, target := .participant "carol@sora", action := .denyFromWaiting }]

/-- Carol waits for the host alice, and the co-host bob is there. -/
def waitingScript : List Move :=
  [.connect 1 0, .connect 2 0, .connect 3 0] ++ sendsFrame 1 0 1 31 ++ sendsFrame 3 1 2 33 ++
    sendsFrame 1 2 3 20 ++ sendsFrame 1 3 4 16 ++ sendsFrame 2 4 5 13

/-- Bob's snapshots at the end and before the last `steps` events have the same
epoch. -/
def sameEpochCheck (steps : Nat) (history : List Event) (room : RoomState)
    (compare : PermissionsSnapshotFrame → PermissionsSnapshotFrame → Bool) : Bool :=
  !room.anonymousMode && (sharedAfter permissionsHub (history.drop steps)).room.any fun first =>
    (permissionsSnapshotForConn first 3 0).any fun told =>
      (permissionsSnapshotForConn room 3 0).any fun tells =>
        tells.epoch == told.epoch && decide (told.epoch < u64Max) && compare told tells

theorem permissionsSnapshots_agree_script :
    ∃ later earlier system first second told tells,
      Run permissionsHub (later ++ earlier) system ∧
        (sharedAfter permissionsHub earlier).room = some first ∧
        system.shared.room = some second ∧
        permissionsSnapshotForConn first 3 0 = some told ∧
        permissionsSnapshotForConn second 3 0 = some tells ∧ told.coHost = true ∧
        tells.host = told.host ∧ tells.coHost = told.coHost ∧
        tells.canModerate = told.canModerate ∧ tells.canRecordLocal = told.canRecordLocal := by
  obtain ⟨history, system, room, run, found, checks⟩ := Run.of_played_room
    permissionsHub waitingScript
    (fun history room =>
      (sameEpochCheck 9 history room fun told _ => told.coHost) &&
        (history.take 9).all fun event => event.before.room.all fun before =>
          !event.op.succeedsSilently event.connId before) (by decide +kernel)
  simp only [sameEpochCheck, Bool.and_eq_true, Bool.not_eq_true', Option.any_eq_true, beq_iff_eq,
    decide_eq_true_eq, List.all_eq_true, Option.all_eq_true] at checks
  obtain ⟨⟨transparent, first, was, told, taken, tells, takenLater, ⟨sameEpoch, below⟩, coHost⟩,
    loud⟩ := checks
  rw [← List.take_append_drop 9 history] at run
  exact ⟨_, _, system, first, room, told, tells, run, was, found, taken, takenLater, coHost,
    permissionsSnapshots_agree run loud was found transparent taken takenLater sameEpoch below⟩

/-- Alice leaves while carol waits: carol becomes the host, as hers is the
smallest connection id, and bob becomes the host in turn when he denies her. -/
def silentScript : List Move :=
  waitingScript ++ closes 1 6 20 ++ sendsFrame 3 5 7 11

theorem permissionsSnapshots_disagree :
    ¬ ∀ (hub : HubState) (later earlier : List Event) (system : System)
        (first second : RoomState) (connId : ConnId) (firstAtMs secondAtMs : Nat)
        (told tells : PermissionsSnapshotFrame),
      Run hub (later ++ earlier) system → (sharedAfter hub earlier).room = some first →
        system.shared.room = some second → second.anonymousMode = false →
          permissionsSnapshotForConn first connId firstAtMs = some told →
            permissionsSnapshotForConn second connId secondAtMs = some tells →
              tells.epoch = told.epoch → told.epoch < u64Max →
                tells.host = told.host ∧ tells.coHost = told.coHost ∧
                  tells.canModerate = told.canModerate ∧
                    tells.canRecordLocal = told.canRecordLocal := by
  intro claimed
  obtain ⟨history, system, room, run, found, checks⟩ := Run.of_played_room
    permissionsHub silentScript
    (fun history room => sameEpochCheck 6 history room fun told tells =>
      !told.host && tells.host) (by decide +kernel)
  simp only [sameEpochCheck, Bool.and_eq_true, Bool.not_eq_true', Option.any_eq_true, beq_iff_eq,
    decide_eq_true_eq] at checks
  obtain ⟨transparent, first, was, told, taken, tells, takenLater, ⟨sameEpoch, below⟩, notHost,
    host⟩ := checks
  rw [← List.take_append_drop 6 history] at run
  obtain ⟨sameHost, _⟩ := claimed permissionsHub _ _ system first room 3 0 0 told tells run was
    found transparent taken takenLater sameEpoch below
  rw [notHost, host] at sameHost
  cases sameHost

end Kaigi.Hub
