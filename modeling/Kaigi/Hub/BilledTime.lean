import Kaigi.Hub.Accounts
import Kaigi.Hub.Joining

/-!
# Billed time

What a participant was charged does not exceed what accrued while it had joined
in transparent mode, as long as nobody joins with a stale billing cursor and
nobody is charged who has not joined.
-/

set_option autoImplicit false

namespace Kaigi.Hub

open Collections Wire Interleaving Authority Metering

/-- The readings of the clock that an operation uses, the first one first. -/
def Operation.clockReadings : Operation → List Nat
  | .connect nowMs | .billing nowMs | .backpressure _ nowMs | .escrowProof _ nowMs
  | .groupKeyRotate nowMs | .participantState _ nowMs | .mediaTrackState _ nowMs
  | .roomConfigUpdate _ nowMs | .roleGrant _ nowMs | .roleRevoke _ nowMs
  | .payment _ nowMs => [nowMs]
  | .disconnect firstMs secondMs | .anonHello _ firstMs secondMs | .hello _ firstMs secondMs
  | .moderation _ firstMs secondMs => [firstMs, secondMs]
  | .read | .lookup _ | .fanout _ | .trySend _ _ | .groupKeyUpdate _ | .sessionPolicy _
  | .deviceCapability _ | .e2eeKeyEpoch _ | .keyRotationAck _ | .reorder _ _ | .takeMessage
  | .closeChannel => []

/-- All clock readings of a history, the latest one first. -/
def clockReadings (history : List Event) : List Nat :=
  history.flatMap fun event => event.op.clockReadings.reverse

/-- The latest clock reading. -/
def clock (history : List Event) : Nat :=
  (clockReadings history).head?.getD 0

/-- The clock never went back from one reading to the next. -/
def Chronological (history : List Event) : Prop :=
  (clockReadings history).Pairwise (· ≥ ·)

/-- The integral of the room rate over the time in which the connection had
joined in transparent mode. -/
def joinedCharge (hub : HubState) (connId : ConnId) : List Event → Nat
  | [] => 0
  | event :: earlier =>
      joinedCharge hub connId earlier +
        (event.before.opened hub).accrual connId * (clock (event :: earlier) - clock earlier)

theorem clockReadings_cons (event : Event) (earlier : List Event) :
    clockReadings (event :: earlier) =
      event.op.clockReadings.reverse ++ clockReadings earlier := rfl

theorem Chronological.earlier {event : Event} {earlier : List Event}
    (chronological : Chronological (event :: earlier)) : Chronological earlier :=
  (List.pairwise_append.mp chronological).2.1

theorem Chronological.within {event : Event} {earlier : List Event} {firstMs secondMs : Nat}
    (chronological : Chronological (event :: earlier))
    (readings : event.op.clockReadings = [firstMs, secondMs]) : firstMs ≤ secondMs := by
  have sorted := (List.pairwise_append.mp chronological).1
  dsimp only at sorted
  rw [readings] at sorted
  simpa using sorted

theorem Chronological.clock_le {event : Event} {earlier : List Event}
    (chronological : Chronological (event :: earlier)) :
    clock earlier ≤ clock (event :: earlier) := by
  unfold Chronological at chronological
  unfold clock
  rw [clockReadings_cons] at chronological ⊢
  cases earliest : clockReadings earlier with
  | nil => exact Nat.zero_le _
  | cons before older =>
      cases latest : event.op.clockReadings.reverse with
      | nil => exact Nat.le_refl _
      | cons now rest =>
          rw [earliest, latest] at chronological
          exact (List.pairwise_append.mp chronological).2.2 now List.mem_cons_self before
            List.mem_cons_self

/-- Whoever joins owes nothing from its cursor on. -/
theorem Joins.owesNothing {hub : HubState} {earlier : List Event} {event : Event}
    {room : RoomState} {connId : ConnId} {participant : ParticipantState}
    (joins : Joins room event.connId event.op connId)
    (guarded : event.op.chargesUnjoined hub event.connId room = false)
    (notYet : room.helloSeen connId = false)
    (found : room.participants.get? connId = some participant) :
    room.ratePerMinuteNano * (clock (event :: earlier) - participant.lastBilledAtMs) = 0 := by
  refine owes_eq_false found (Bool.eq_false_iff.mpr fun owes => Bool.eq_false_iff.mp guarded ?_)
  obtain ⟨actor, task, op, state⟩ := event
  dsimp only at joins ⊢
  cases joins with
  | @hello frame snapshotAtMs deltaAtMs admits =>
      have owed : room.owes connId deltaAtMs = true := owes
      simp [Operation.chargesUnjoined, notYet, admits, owed]
  | @admitted frame nowMs admitAtMs _ target admission joined moderates clocked targets known
      waits =>
      have owed : room.owes connId admitAtMs = true := owes
      simp [Operation.chargesUnjoined, admission, joined, moderates, clocked, targets, known,
        waits, notYet, owed]

/-- Nobody is charged in a room that is not there. -/
theorem chargesUnjoined_emptyRoom {hub : HubState} {op : Operation} {connId : ConnId}
    {state : HubRoom} (missing : state.room = none) :
    op.chargesUnjoined hub connId (state.opened hub) = false := by
  have nobody : (state.opened hub).helloSeen connId = false := by
    simp [HubRoom.opened, missing, emptyRoom, RoomState.helloSeen]
  have owes : ∀ nowMs, (state.opened hub).owes connId nowMs = false := by
    simp [HubRoom.opened, missing, emptyRoom, RoomState.owes]
  cases op <;> simp [Operation.chargesUnjoined, nobody, owes]

/-- An event that moves no cursor keeps the balance, if nobody joins who owes
something. -/
theorem Lawful.keepsBalance {hub : HubState} {earlier : List Event} {event : Event}
    {after : RoomState} (lawful : Lawful hub earlier event)
    (left : (event.after hub).room = some after)
    (guarded : event.op.chargesUnjoined hub event.connId (event.before.opened hub) = false)
    (same : SameAccounts (event.before.opened hub) after) :
    KeepsBalance (event.before.opened hub) after (clock (event :: earlier)) := by
  intro connId new found
  obtain ⟨old, was, bill⟩ := same.accounts connId new found
  refine ⟨old, was, ?_⟩
  rw [billingAccount_congr bill]
  refine .kept ?_
  cases mode : after.anonymousMode with
  | true => exact .inl ((accrual_of_anonymous mode).le.trans (Nat.zero_le _))
  | false =>
      cases joined : after.helloSeen connId with
      | false =>
          have suspended : after.accrual connId = 0 := by simp [RoomState.accrual, joined]
          exact .inl (suspended.le.trans (Nat.zero_le _))
      | true =>
          rw [accrual_of_joined mode joined, same.rate]
          cases wasJoined : (event.before.opened hub).helloSeen connId with
          | true =>
              have transparent := (lawful.step left).transparent mode
              exact .inl (accrual_of_joined transparent wasJoined).ge
          | false =>
              have joins := (lawful.joined left mode joined).resolve_left (by simp [wasJoined])
              exact .inr (joins.owesNothing guarded wasJoined was)

/-- What an event does to the accounts of the room it leaves behind. -/
theorem Lawful.balanced {hub : HubState} {earlier : List Event} {event : Event}
    {after : RoomState} (lawful : Lawful hub earlier event) (separated : event.before.Separated)
    (chronological : Chronological (event :: earlier))
    (guarded : event.op.chargesUnjoined hub event.connId (event.before.opened hub) = false)
    (left : (event.after hub).room = some after) {connId : ConnId} {new : ParticipantState}
    (found : after.participants.get? connId = some new) :
    billingAccount new = ⟨0, clock (event :: earlier)⟩ ∨
      ∃ old, (event.before.opened hub).participants.get? connId = some old ∧
        Balanced ((event.before.opened hub).accrual connId) (after.accrual connId)
          (clock (event :: earlier)) (billingAccount old) (billingAccount new) := by
  have keeps := lawful.keepsBalance left guarded
  have later : ∀ {firstMs secondMs : Nat}, event.op.clockReadings = [firstMs, secondMs] →
      firstMs ≤ secondMs := chronological.within
  have transparent := lawful.transparent
  obtain ⟨actor, task, op, state⟩ := event
  dsimp only at separated guarded keeps later transparent
  have untouched : SameAccounts (state.opened hub) after →
      ∃ old, (state.opened hub).participants.get? connId = some old ∧
        Balanced ((state.opened hub).accrual connId) (after.accrual connId)
          (clock (⟨actor, task, op, state⟩ :: earlier)) (billingAccount old)
            (billingAccount new) :=
    fun same => keeps same connId new found
  have updated : op.movesCursors = false →
      state.room.map (op.updateRoom hub actor) = some after →
        SameAccounts (state.opened hub) after := by
    intro uncharged same
    obtain ⟨room, present, rfl⟩ := Option.map_eq_some_iff.mp same
    rw [HubRoom.opened_of_some present]
    exact (sameAccounts_survives actor op room room).updateRoom uncharged (.refl room)
  have unchanged : state.room = some after → SameAccounts (state.opened hub) after := by
    intro same
    rw [HubRoom.opened_of_some same]
    exact .refl after
  cases op with
  | connect connectedAtMs =>
      cases left
      rw [HashMap.get?_put] at found
      split at found
      · cases found
        exact .inl rfl
      · next other =>
          refine .inr ⟨new, found, .kept (.inl (le_of_eq ?_))⟩
          simp [RoomState.accrual, RoomState.helloSeen, other, HubRoom.opened]
  | disconnect deltaAtMs leftAtMs =>
      obtain ⟨room, present, remains⟩ := Option.bind_eq_some_iff.mp left
      have same : SameAccounts (state.opened hub) after := by
        rw [HubRoom.opened_of_some present]
        exact sameAccounts_disconnectSection remains
      exact .inr (untouched same)
  | billing nowMs =>
      obtain ⟨room, present, rfl⟩ := Option.map_eq_some_iff.mp left
      dsimp only at present
      rw [HubRoom.opened_of_some present] at guarded ⊢
      exact .inr (billingSection_balance guarded connId new found)
  | payment frame nowMs =>
      obtain ⟨room, present, rfl⟩ := Option.map_eq_some_iff.mp left
      dsimp only at present
      rw [HubRoom.opened_of_some present]
      exact .inr (paymentSection_balance (separated room present)
        (fun sender known => transparent rfl room sender present known) connId new found)
  | roomConfigUpdate update nowMs =>
      obtain ⟨room, present, rfl⟩ := Option.map_eq_some_iff.mp left
      dsimp only at present
      rw [HubRoom.opened_of_some present] at guarded ⊢
      exact .inr (roomConfigUpdateSection_balance (separated room present)
        (fun sender known => transparent rfl room sender present known) guarded connId new found)
  | anonHello frame nowMs rosterAtMs =>
      obtain ⟨room, present, rfl⟩ := Option.map_eq_some_iff.mp left
      dsimp only at present
      rw [HubRoom.opened_of_some present]
      exact .inr (anonHelloSection_balance (later rfl) connId new found)
  | trySend | takeMessage | closeChannel => exact .inr (untouched (unchanged left))
  | _ => exact .inr (untouched (updated rfl left))

/-- In a room where nobody is charged for time in which it had not joined, every
account is covered by what accrued. -/
theorem Trace.covered {hub : HubState} {history : List Event} (trace : Trace hub history)
    (chronological : Chronological history)
    (guarded : ∀ event ∈ history, ∀ before, event.before.room = some before →
      event.op.chargesUnjoined hub event.connId before = false) :
    ∀ connId participant, (roomAfter hub history).participants.get? connId = some participant →
      Covered (billingAccount participant) ((roomAfter hub history).accrual connId)
        (clock history) (joinedCharge hub connId history) := by
  refine Trace.room (fun past room => (∀ event ∈ past, event ∈ history) →
    Chronological past → ∀ connId participant,
      room.participants.get? connId = some participant →
        Covered (billingAccount participant) (room.accrual connId) (clock past)
          (joinedCharge hub connId past)) ?_ ?_ trace (fun _ member => member) chronological
  · intro _ _ _ connId participant found
    simp [emptyRoom] at found
  · intro earlier event after known lawful same ih left among chronological connId new found
    have clear : event.op.chargesUnjoined hub event.connId (event.before.opened hub) = false := by
      cases present : event.before.room with
      | some before =>
          rw [HubRoom.opened_of_some present]
          exact guarded event (among event List.mem_cons_self) before present
      | none => exact chargesUnjoined_emptyRoom present
    rcases lawful.balanced (same ▸ known.separated) chronological clear left found with
      fresh | ⟨old, was, balanced⟩
    · rw [fresh]
      exact .opened
    · have covered := ih (fun past member => among past (List.mem_cons_of_mem _ member))
        chronological.earlier connId old was
      exact (covered.wait chronological.clock_le).balance balanced

/-- In a run whose clock does not go back, and where nobody is charged for time in
which it had not joined, what a participant was charged does not exceed the
integral of the room rate over the time in which it had. -/
theorem billing_joinedTimeOnly {hub : HubState} {history : List Event} {system : System}
    (run : Run hub history system) (chronological : Chronological history)
    (guarded : ∀ event ∈ history, ∀ before, event.before.room = some before →
      event.op.chargesUnjoined hub event.connId before = false) :
    ∀ room, system.shared.room = some room →
      ∀ connId participant, room.participants.get? connId = some participant →
        60000 * participant.billedNanoXor + participant.billingRemainderMod60k ≤
          joinedCharge hub connId history := by
  intro room found connId participant present
  have covered := run.trace.1.covered chronological guarded connId participant
  rw [roomAfter_eq run found] at covered
  exact (covered present).charged_le

/-- A hub that charges once a minute. -/
def billedHub : HubState :=
  let hub := scriptedHub [helloAs "alice@sora"]
  { hub with billing := { hub.billing with checkIntervalSecs := 60 } }

/-- Alice joins, and a minute later she is charged. -/
def billedScript (joinsAtMs : Nat) : List Move :=
  .connect 1 0 :: sendsFrame 1 0 joinsAtMs 24 ++ [.billingTick 1] ++
    List.replicate 2 (.advanceBilling 1 60000)

theorem billing_joinedTimeOnly_script :
    ∃ history system room participant, Run billedHub history system ∧
      system.shared.room = some room ∧ room.participants.get? 1 = some participant ∧
        participant.billedNanoXor = 60000 ∧
          60000 * participant.billedNanoXor + participant.billingRemainderMod60k ≤
            joinedCharge billedHub 1 history := by
  obtain ⟨history, system, room, run, found, checks⟩ := Run.of_played_room
    billedHub (billedScript 0)
    (fun history room =>
      (room.participants.get? 1).any (fun participant => participant.billedNanoXor == 60000) &&
        decide ((clockReadings history).Pairwise (· ≥ ·)) &&
          history.all fun event => event.before.room.all fun before =>
            !event.op.chargesUnjoined billedHub event.connId before) (by decide +kernel)
  simp only [Bool.and_eq_true, Option.any_eq_true, beq_iff_eq, decide_eq_true_eq, List.all_eq_true,
    Option.all_eq_true, Bool.not_eq_true'] at checks
  obtain ⟨⟨⟨participant, present, billed⟩, chronological⟩, guarded⟩ := checks
  exact ⟨history, system, room, participant, run, found, present, billed,
    billing_joinedTimeOnly run chronological guarded room found 1 participant present⟩

theorem billing_chargesUnjoinedTime :
    ¬ ∀ (hub : HubState) (history : List Event) (system : System), Run hub history system →
      Chronological history → ∀ room, system.shared.room = some room →
        ∀ connId participant, room.participants.get? connId = some participant →
          60000 * participant.billedNanoXor + participant.billingRemainderMod60k ≤
            joinedCharge hub connId history := by
  intro claimed
  obtain ⟨history, system, room, run, found, checks⟩ := Run.of_played_room
    billedHub (billedScript 60000)
    (fun history room =>
      (room.participants.get? 1).any (fun participant =>
        decide (joinedCharge billedHub 1 history < participant.billedNanoXor)) &&
          decide ((clockReadings history).Pairwise (· ≥ ·))) (by decide +kernel)
  simp only [Bool.and_eq_true, Option.any_eq_true, decide_eq_true_eq] at checks
  obtain ⟨⟨participant, present, billed⟩, chronological⟩ := checks
  have bounded :=
    claimed billedHub history system run chronological room found 1 participant present
  omega

end Kaigi.Hub
