import Mathlib.Algebra.Ring.Nat
import Kaigi.Hub.BilledTime
import Kaigi.Metering.Samples

/-!
# Billing exactness

Below saturation a participant is charged exactly the rises of its cursor at the
rate in force. Under a clock that goes back the same time may be charged twice.
-/

set_option autoImplicit false

namespace Kaigi.Hub

open Collections Wire Interleaving Authority Metering

/-! ### Samples of the clock -/

/-- `advance_billing` for one sample of the clock after the other. -/
def advanceThrough (participant : ParticipantState) (ratePerMinuteNano : Nat)
    (samples : List Nat) : ParticipantState :=
  samples.foldl (fun participant nowMs => advanceBilling participant ratePerMinuteNano nowMs)
    participant

/-- The samples charge no more than the time from the cursor to the largest of
them. -/
def BilledOnce (participant : ParticipantState) (ratePerMinuteNano : Nat) (samples : List Nat) :
    Prop :=
  60000 * (advanceThrough participant ratePerMinuteNano samples).billedNanoXor +
      (advanceThrough participant ratePerMinuteNano samples).billingRemainderMod60k ≤
    60000 * participant.billedNanoXor + participant.billingRemainderMod60k +
      ratePerMinuteNano * (peak participant.lastBilledAtMs samples - participant.lastBilledAtMs)

theorem advanceThrough_charged_le (participant : ParticipantState) (rate : Nat)
    (samples : List Nat) :
    (billingAccount (advanceThrough participant rate samples)).charged ≤
      (billingAccount participant).charged +
        rate * ascent participant.lastBilledAtMs samples := by
  induction samples generalizing participant with
  | nil => exact Nat.le_add_right _ _
  | cons nowMs rest ih =>
      have charged := billingAccount_advanceBilling_charged participant rate nowMs
      have cursor := billingAccount_advanceBilling_cursor participant rate nowMs
      have later := ih (advanceBilling participant rate nowMs)
      rw [show (advanceBilling participant rate nowMs).lastBilledAtMs = nowMs from cursor] at later
      change (billingAccount (advanceThrough (advanceBilling participant rate nowMs) rate
        rest)).charged ≤ _
      rw [ascent, Nat.mul_add]
      unfold Account.due at charged
      change _ ≤ (billingAccount participant).charged +
        rate * (nowMs - participant.lastBilledAtMs) at charged
      omega

/-- Below saturation the samples charge every rise. -/
theorem advanceThrough_charged_eq (participant : ParticipantState) (rate : Nat)
    (samples : List Nat)
    (unsaturated : (billingAccount participant).charged +
      rate * ascent participant.lastBilledAtMs samples < 60000 * (u64Max + 1)) :
    (billingAccount (advanceThrough participant rate samples)).charged =
      (billingAccount participant).charged +
        rate * ascent participant.lastBilledAtMs samples := by
  induction samples generalizing participant with
  | nil => rfl
  | cons nowMs rest ih =>
      rw [ascent, Nat.mul_add] at unsaturated ⊢
      have due : (billingAccount participant).due rate nowMs =
          (billingAccount participant).charged +
            rate * (nowMs - participant.lastBilledAtMs) := rfl
      have charged := billingAccount_advanceBilling_exact participant rate nowMs (by omega)
      have cursor := billingAccount_advanceBilling_cursor participant rate nowMs
      have later := ih (advanceBilling participant rate nowMs)
      rw [show (advanceBilling participant rate nowMs).lastBilledAtMs = nowMs from cursor,
        charged] at later
      change (billingAccount (advanceThrough (advanceBilling participant rate nowMs) rate
        rest)).charged = _
      omega

/-- Samples in which no rise follows a fall charge no time twice, and below
saturation no others do. -/
theorem billedOnce_iff (participant : ParticipantState) (rate : Nat) (samples : List Nat) :
    ((rate = 0 ∨ RisesThenFalls participant.lastBilledAtMs samples) →
      BilledOnce participant rate samples) ∧
    (60000 * participant.billedNanoXor + participant.billingRemainderMod60k +
        rate * ascent participant.lastBilledAtMs samples < 60000 * (u64Max + 1) →
      (BilledOnce participant rate samples ↔
        rate = 0 ∨ RisesThenFalls participant.lastBilledAtMs samples)) := by
  have charged := advanceThrough_charged_le participant rate samples
  have enough : (rate = 0 ∨ RisesThenFalls participant.lastBilledAtMs samples) →
      BilledOnce participant rate samples := by
    rintro (rfl | once)
    · rw [Nat.zero_mul] at charged
      exact charged.trans (Nat.le_add_right _ _)
    · rw [(ascent_eq_peak_iff _ _).mpr once] at charged
      exact charged
  refine ⟨enough, fun unsaturated => ⟨fun once => ?_, enough⟩⟩
  have exactly := advanceThrough_charged_eq participant rate samples unsaturated
  have rises := peak_sub_le_ascent participant.lastBilledAtMs samples
  rcases Nat.eq_zero_or_pos rate with free | positive
  · exact .inl free
  · refine .inr ((ascent_eq_peak_iff _ _).mp (Nat.le_antisymm ?_ rises))
    refine Nat.le_of_mul_le_mul_left ?_ positive
    unfold BilledOnce at once
    unfold billingAccount at exactly
    dsimp only at exactly
    omega

/-- Two handlers sample 50 and 100, and the one that sampled 100 takes the lock
first. The next sample charges the time from 50 to 100 again. -/
theorem billedTwice :
    ¬ ∀ (participant : ParticipantState) (rate : Nat) (samples : List Nat),
      BilledOnce participant rate samples := by
  intro claimed
  have once := claimed (freshParticipant 1 0) 60000 [100, 50, 100]
  revert once
  unfold BilledOnce
  decide

/-! ### Runs -/

/-- What an event does to the bills of the room it finds. -/
inductive Bills (hub : HubState) (event : Event) (room after : RoomState) (nowMs : Nat) : Prop where
  | connects : room.participants.get? event.connId = none →
      after.ratePerMinuteNano = room.ratePerMinuteNano →
      after.participants =
        room.participants.put event.connId (freshParticipant event.connId nowMs) →
      Bills hub event room after nowMs
  | same : SameAccounts room after → Bills hub event room after nowMs
  | charges : Charges room after nowMs (fun _ old => old.helloSeen = true) →
      Bills hub event room after nowMs
  | configures {update : RoomConfigUpdateFrame} : event.op = .roomConfigUpdate update nowMs →
      (∀ connId new, after.participants.get? connId = some new →
        ∃ old, room.participants.get? connId = some old ∧
          new = advanceBilling old room.ratePerMinuteNano nowMs) →
      Bills hub event room after nowMs
  | hellos {hello : AnonHelloFrame} {firstMs : Nat} : firstMs ≤ nowMs →
      AnonHellos hub room event.connId hello firstMs after → Bills hub event room after nowMs

theorem Charges.mono {room after : RoomState} {nowMs : Nat}
    {may might : ConnId → ParticipantState → Prop} (charges : Charges room after nowMs may)
    (imp : ∀ connId old, may connId old → might connId old) :
    Charges room after nowMs might := by
  refine ⟨charges.rate, fun connId new found => ?_⟩
  obtain ⟨old, was, billed, charge⟩ := charges.charge connId new found
  refine ⟨old, was, billed, ?_⟩
  cases charge with
  | kept bill => exact .kept bill
  | skipped notJoined bill => exact .skipped notJoined bill
  | charged mayCharge bill => exact .charged (imp connId old mayCharge) bill

theorem Lawful.bills {hub : HubState} {earlier : List Event} {event : Event} {after : RoomState}
    (lawful : Lawful hub earlier event) (chronological : Chronological (event :: earlier))
    (left : (event.after hub).room = some after) :
    Bills hub event (event.before.opened hub) after (clock (event :: earlier)) := by
  have fresh := lawful.fresh
  have later : ∀ {firstMs secondMs : Nat}, event.op.clockReadings = [firstMs, secondMs] →
      firstMs ≤ secondMs := chronological.within
  obtain ⟨actor, task, op, state⟩ := event
  dsimp only at fresh later ⊢
  have updated : op.movesCursors = false →
      state.room.map (op.updateRoom hub actor) = some after →
        SameAccounts (state.opened hub) after := by
    intro uncharged same
    obtain ⟨room, present, rfl⟩ := Option.map_eq_some_iff.mp same
    rw [HubRoom.opened_of_some present]
    exact (sameAccounts_survives actor op room room).updateRoom uncharged (.refl room)
  have unchanged : state.room = some after → SameAccounts (state.opened hub) after := by
    intro same
    rw [HubRoom.opened_of_some same]
    exact .refl after
  cases op with
  | connect connectedAtMs =>
      cases left
      exact .connects (fresh connectedAtMs rfl) rfl rfl
  | disconnect deltaAtMs leftAtMs =>
      obtain ⟨room, present, remains⟩ := Option.bind_eq_some_iff.mp left
      refine .same ?_
      rw [HubRoom.opened_of_some present]
      exact sameAccounts_disconnectSection remains
  | billing nowMs =>
      obtain ⟨room, present, rfl⟩ := Option.map_eq_some_iff.mp left
      rw [HubRoom.opened_of_some present]
      exact .charges ((billingSection_charges hub room actor nowMs).mono
        fun _ _ may => may.2.1)
  | payment frame nowMs =>
      obtain ⟨room, present, rfl⟩ := Option.map_eq_some_iff.mp left
      rw [HubRoom.opened_of_some present]
      exact .charges ((paymentSection_charges hub room actor frame nowMs).mono
        fun _ _ may => may.2)
  | roomConfigUpdate update nowMs =>
      obtain ⟨room, present, rfl⟩ := Option.map_eq_some_iff.mp left
      rw [HubRoom.opened_of_some present]
      rcases roomConfigUpdateSection_charges hub room actor update nowMs with
        refused | ⟨_, _, charges⟩
      · refine .same ?_
        change SameAccounts room (roomConfigUpdateSection hub room actor update nowMs).1
        rw [refused]
        exact .refl room
      · exact .configures rfl charges
  | anonHello frame nowMs rosterAtMs =>
      obtain ⟨room, present, rfl⟩ := Option.map_eq_some_iff.mp left
      rw [HubRoom.opened_of_some present]
      exact .hellos (later rfl) (anonHelloSection_hellos hub room actor frame nowMs rosterAtMs)
  | trySend | takeMessage | closeChannel => exact .same (unchanged left)
  | _ => exact .same (updated rfl left)

/-- The rate of the room and the billing cursor of a connection, as the shared
state has them. -/
def HubRoom.ratePerMinuteNano (state : HubRoom) : Nat :=
  (state.room.map (·.ratePerMinuteNano)).getD 0

def HubRoom.cursor (state : HubRoom) (connId : ConnId) : Nat :=
  ((state.room.bind (·.participants.get? connId)).map (·.lastBilledAtMs)).getD 0

/-- The sum, over the events that move the cursor of the connection, of the rate
in force times the milliseconds that the cursor moves. -/
def chargedCalls (hub : HubState) (connId : ConnId) (events : List Event) : Nat :=
  (events.map fun event => event.before.ratePerMinuteNano *
    ((event.after hub).cursor connId - event.before.cursor connId)).sum

/-- The integral of the room rate over the time of the later events. -/
def rateIntegral (earlier : List Event) : List Event → Nat
  | [] => 0
  | event :: rest =>
      rateIntegral earlier rest + event.before.ratePerMinuteNano *
        (clock (event :: (rest ++ earlier)) - clock (rest ++ earlier))

theorem HubRoom.cursor_of_some {state : HubRoom} {room : RoomState} {connId : ConnId}
    {participant : ParticipantState} (found : state.room = some room)
    (present : room.participants.get? connId = some participant) :
    state.cursor connId = participant.lastBilledAtMs := by
  simp [HubRoom.cursor, found, present]

theorem HubRoom.ratePerMinuteNano_of_some {state : HubRoom} {room : RoomState}
    (found : state.room = some room) : state.ratePerMinuteNano = room.ratePerMinuteNano := by
  simp [HubRoom.ratePerMinuteNano, found]

theorem billingRemainderMod60k_advanceBilling {participant : ParticipantState} {rate nowMs : Nat}
    (below : participant.billingRemainderMod60k < 60000) :
    (advanceBilling participant rate nowMs).billingRemainderMod60k < 60000 := by
  unfold advanceBilling
  dsimp only
  split
  · exact below
  · exact Nat.mod_lt _ (by decide)

/-- The carried remainder is a remainder, and no cursor is ahead of the clock. -/
structure WellBilled (participant : ParticipantState) (clock : Nat) : Prop where
  remainder : participant.billingRemainderMod60k < 60000
  cursor : participant.lastBilledAtMs ≤ clock

theorem WellBilled.of_bill {old new : ParticipantState} {clock nowMs : Nat}
    (billed : WellBilled old clock) (later : clock ≤ nowMs) (same : billOf new = billOf old) :
    WellBilled new nowMs where
  remainder := by
    rw [show new.billingRemainderMod60k = old.billingRemainderMod60k from
      congrArg Bill.billingRemainderMod60k same]
    exact billed.remainder
  cursor := by
    rw [show new.lastBilledAtMs = old.lastBilledAtMs from congrArg Bill.lastBilledAtMs same]
    exact billed.cursor.trans later

theorem WellBilled.advance {old : ParticipantState} {clock rate nowMs : Nat}
    (billed : WellBilled old clock) : WellBilled (advanceBilling old rate nowMs) nowMs where
  remainder := billingRemainderMod60k_advanceBilling billed.remainder
  cursor := (billingAccount_advanceBilling_cursor old rate nowMs).le

theorem applyAnonHelloState_bill {participant joined : ParticipantState} {hello : AnonHelloFrame}
    {nowMs : Nat} (accepted : applyAnonHelloState participant hello nowMs = .ok joined) :
    billOf joined = billOf participant ∨
      billOf joined = { billOf participant with lastBilledAtMs := nowMs } := by
  unfold applyAnonHelloState at accepted
  dsimp only at accepted
  split at accepted
  · cases accepted
  · cases accepted
    simp only [billOf]
    split
    · exact .inr rfl
    · exact .inl rfl

theorem Trace.wellBilled {hub : HubState} {history : List Event} (trace : Trace hub history)
    (chronological : Chronological history) :
    ∀ connId participant, (roomAfter hub history).participants.get? connId = some participant →
      WellBilled participant (clock history) := by
  refine Trace.room (fun past room => Chronological past → ∀ connId participant,
    room.participants.get? connId = some participant → WellBilled participant (clock past))
    ?_ ?_ trace chronological
  · intro _ _ connId participant found
    simp [emptyRoom] at found
  · intro earlier event after _ lawful _ ih left chronological connId new found
    have well := ih chronological.earlier
    have later := chronological.clock_le
    cases lawful.bills chronological left with
    | connects _ _ participants =>
        rw [participants, HashMap.get?_put] at found
        split at found
        · cases found
          exact ⟨Nat.zero_lt_succ _, Nat.le_refl _⟩
        · exact (well connId new found).of_bill later rfl
    | same same =>
        obtain ⟨old, was, bill⟩ := same.accounts connId new found
        exact (well connId old was).of_bill later bill
    | charges charges =>
        obtain ⟨old, was, _, charge⟩ := charges.charge connId new found
        cases charge with
        | kept bill => exact (well connId old was).of_bill later bill
        | skipped _ bill =>
            have moved : WellBilled { old with lastBilledAtMs := clock (event :: earlier) }
              (clock (event :: earlier)) := ⟨(well connId old was).remainder, Nat.le_refl _⟩
            exact moved.of_bill (Nat.le_refl _) bill
        | charged _ bill => exact (well connId old was).advance.of_bill (Nat.le_refl _) bill
    | configures _ charges =>
        obtain ⟨old, was, rfl⟩ := charges connId new found
        exact (well connId old was).advance
    | @hellos _ firstMs first hellos =>
        cases hellos with
        | refused participants =>
            rw [participants] at found
            exact (well connId new found).of_bill later rfl
        | @accepted participant joined _ _ was accepted participants =>
            rw [participants, HashMap.get?_modify] at found
            split at found
            · next same =>
                subst same
                rw [was] at found
                cases found
                have old := well event.connId participant was
                rcases applyAnonHelloState_bill accepted with bill | bill
                · exact old.of_bill later bill
                · have moved : WellBilled { participant with lastBilledAtMs := firstMs } firstMs :=
                    ⟨old.remainder, Nat.le_refl _⟩
                  exact moved.of_bill first bill
            · exact (well connId new found).of_bill later rfl

/-- A participant that had joined a transparent room keeps its bill, or is charged
up to now at the rate the event found. -/
theorem Bills.member {hub : HubState} {event : Event} {room after : RoomState} {nowMs : Nat}
    {connId : ConnId}
    {old new : ParticipantState} (bills : Bills hub event room after nowMs)
    (transparent : after.anonymousMode = false)
    (was : room.participants.get? connId = some old) (joined : old.helloSeen = true)
    (found : after.participants.get? connId = some new) :
    (after.ratePerMinuteNano = room.ratePerMinuteNano ∧ billOf new = billOf old) ∨
      billOf new = billOf (advanceBilling old room.ratePerMinuteNano nowMs) := by
  cases bills with
  | connects fresh rate participants =>
      rw [participants, HashMap.get?_put] at found
      split at found
      · next same =>
          subst same
          rw [fresh] at was
          cases was
      · rw [was] at found
        cases found
        exact .inl ⟨rate, rfl⟩
  | same same =>
      obtain ⟨before, known, bill⟩ := same.accounts connId new found
      rw [was] at known
      cases known
      exact .inl ⟨same.rate, bill⟩
  | charges charges =>
      obtain ⟨before, known, _, charge⟩ := charges.charge connId new found
      rw [was] at known
      cases known
      cases charge with
      | kept bill => exact .inl ⟨charges.rate, bill⟩
      | skipped notJoined => rw [joined] at notJoined; cases notJoined
      | charged _ bill => exact .inr bill
  | configures _ charges =>
      obtain ⟨before, known, rfl⟩ := charges connId new found
      rw [was] at known
      cases known
      exact .inr rfl
  | hellos _ hellos =>
      cases hellos with
      | refused participants rate =>
          rw [participants, was] at found
          cases found
          exact .inl ⟨rate, rfl⟩
      | accepted anonymous =>
          rw [anonymous] at transparent
          cases transparent

theorem Bills.exact {hub : HubState} {event : Event} {room after : RoomState} {nowMs : Nat}
    {connId : ConnId}
    {old new : ParticipantState} (bills : Bills hub event room after nowMs)
    (transparent : after.anonymousMode = false)
    (was : room.participants.get? connId = some old) (joined : old.helloSeen = true)
    (found : after.participants.get? connId = some new)
    (unsaturated : (billingAccount old).charged +
      room.ratePerMinuteNano * (new.lastBilledAtMs - old.lastBilledAtMs) < 60000 * (u64Max + 1)) :
    Exact room.ratePerMinuteNano after.ratePerMinuteNano nowMs (billingAccount old)
      (billingAccount new) := by
  rcases bills.member transparent was joined found with ⟨same, bill⟩ | bill
  · rw [billingAccount_congr bill, same]
    exact .kept
  · have current : new.lastBilledAtMs = nowMs :=
      (congrArg Bill.lastBilledAtMs bill).trans (billingAccount_advanceBilling_cursor old _ _)
    refine .settled current ?_
    rw [billingAccount_congr bill]
    rw [current] at unsaturated
    exact billingAccount_advanceBilling_exact old _ _ unsaturated

/-- The event is an update by the host that charges everybody up to now at the
old rate. -/
def ChangesRate (event : Event) (before after : RoomState) : Prop :=
  ∃ update nowMs, event.op = .roomConfigUpdate update nowMs ∧
    ∀ connId new, after.participants.get? connId = some new →
      ∃ old, before.participants.get? connId = some old ∧
        new = advanceBilling old before.ratePerMinuteNano nowMs

theorem Bills.changesRate {hub : HubState} {event : Event} {room after : RoomState} {nowMs : Nat}
    (bills : Bills hub event room after nowMs) (transparent : after.anonymousMode = false)
    (changed : after.ratePerMinuteNano ≠ room.ratePerMinuteNano) :
    ChangesRate event room after := by
  cases bills with
  | connects _ rate => exact absurd rate changed
  | same same => exact absurd same.rate changed
  | charges charges => exact absurd charges.rate changed
  | configures request charges => exact ⟨_, _, request, charges⟩
  | hellos _ hellos =>
      cases hellos with
      | refused _ rate => exact absurd rate changed
      | accepted anonymous =>
          rw [anonymous] at transparent
          cases transparent

/-- What a participant was charged between two moments of a run: the calls, and
with what is still due the integral of the rate, which only the host changes. -/
structure ChargedExactly (hub : HubState) (earlier later : List Event) (connId : ConnId)
    (old new : ParticipantState) (oldRate newRate : Nat) : Prop where
  joined : new.helloSeen = true
  calls : (billingAccount new).charged =
    (billingAccount old).charged + chargedCalls hub connId later
  integral : (billingAccount new).due newRate (clock (later ++ earlier)) =
    (billingAccount old).due oldRate (clock earlier) + rateIntegral earlier later
  rates : ∀ event ∈ later, ∀ before after, event.before.room = some before →
    (event.after hub).room = some after →
      after.ratePerMinuteNano ≠ before.ratePerMinuteNano → ChangesRate event before after

theorem Trace.chargedExactly {hub : HubState} {later earlier : List Event}
    (trace : Trace hub (later ++ earlier)) (chronological : Chronological (later ++ earlier))
    {first second : RoomState} (was : (sharedAfter hub earlier).room = some first)
    (found : (sharedAfter hub (later ++ earlier)).room = some second)
    (transparent : second.anonymousMode = false) {connId : ConnId} {old new : ParticipantState}
    (present : first.participants.get? connId = some old) (joined : old.helloSeen = true)
    (stays : second.participants.get? connId = some new)
    (below : (billingAccount old).charged + chargedCalls hub connId later < 60000 * (u64Max + 1)) :
    ChargedExactly hub earlier later connId old new first.ratePerMinuteNano
      second.ratePerMinuteNano := by
  induction later generalizing second new with
  | nil =>
      rw [show (sharedAfter hub earlier).room = some second from found] at was
      cases was
      rw [present] at stays
      cases stays
      exact ⟨joined, rfl, rfl, fun _ none => by cases none⟩
  | cons event rest ih =>
      rw [List.cons_append] at trace found chronological
      have stayed : connId ∈ event.before.connections := by
        refine trace.stayed ?_ ?_
        · rw [HubRoom.connections_of_some was, HashMap.mem_keys, present]
          rfl
        · rw [HubRoom.connections_of_some found, HashMap.mem_keys, stays]
          rfl
      obtain ⟨room, before, member⟩ := HubRoom.exists_of_mem_connections stayed
      obtain ⟨middle, known⟩ := Option.isSome_iff_exists.mp (HashMap.mem_keys.mp member)
      cases trace with
      | step past same lawful =>
          change (event.after hub).room = some second at found
          have opened : event.before.opened hub = room := HubRoom.opened_of_some before
          have step := lawful.step found
          have bills := lawful.bills chronological found
          rw [opened] at bills step
          have mode : room.anonymousMode = false := step.transparent transparent
          have rate := HubRoom.ratePerMinuteNano_of_some before
          have calls : chargedCalls hub connId (event :: rest) = room.ratePerMinuteNano *
              (new.lastBilledAtMs - middle.lastBilledAtMs) + chargedCalls hub connId rest := by
            rw [← rate, ← HubRoom.cursor_of_some found stays,
              ← HubRoom.cursor_of_some before known]
            rfl
          rw [calls] at below
          have exactly := ih past chronological.earlier (same ▸ before) mode known (by omega)
          have well := past.wellBilled chronological.earlier connId middle
          rw [roomAfter_of_some (same ▸ before)] at well
          have waited : (billingAccount middle).due room.ratePerMinuteNano
              (clock (event :: (rest ++ earlier))) =
              (billingAccount middle).due room.ratePerMinuteNano (clock (rest ++ earlier)) +
                room.ratePerMinuteNano *
                  (clock (event :: (rest ++ earlier)) - clock (rest ++ earlier)) :=
            Account.due_wait (well known).cursor chronological.clock_le
          have exact' := bills.exact transparent known exactly.joined stays (by
            rw [exactly.calls]
            omega)
          refine ⟨step.joined ⟨_, members_groupOf known, exactly.joined⟩ (members_groupOf stays),
            ?_, ?_, ?_⟩
          · rw [calls, exact'.charged, exactly.calls]
            change _ + room.ratePerMinuteNano * (new.lastBilledAtMs - middle.lastBilledAtMs) = _
            omega
          · change (billingAccount new).due _ (clock (event :: (rest ++ earlier))) = _
            rw [exact'.due, waited, exactly.integral, Nat.add_assoc, ← rate]
            rfl
          · intro past' among earlierRoom laterRoom known' left changed
            rcases List.mem_cons.mp among with rfl | among
            · rw [before] at known'
              rw [found] at left
              cases known'
              cases left
              exact bills.changesRate transparent changed
            · exact exactly.rates past' among earlierRoom laterRoom known' left changed

/-- Between two moments of a run whose clock does not go back, a participant that
has joined a transparent room is charged what the calls say, to the last nano,
and every change of the rate counts for everybody from the moment of the change. -/
theorem billing_exact {hub : HubState} {later earlier : List Event} {system : System}
    (run : Run hub (later ++ earlier) system) (chronological : Chronological (later ++ earlier))
    {first second : RoomState} (was : (sharedAfter hub earlier).room = some first)
    (found : system.shared.room = some second) (transparent : second.anonymousMode = false)
    {connId : ConnId} {old new : ParticipantState}
    (present : first.participants.get? connId = some old) (joined : old.helloSeen = true)
    (stays : second.participants.get? connId = some new)
    (below : 60000 * old.billedNanoXor + old.billingRemainderMod60k +
      chargedCalls hub connId later < 60000 * (u64Max + 1)) :
    60000 * new.billedNanoXor + new.billingRemainderMod60k =
        60000 * old.billedNanoXor + old.billingRemainderMod60k + chargedCalls hub connId later ∧
      new.billingRemainderMod60k < 60000 ∧
      60000 * new.billedNanoXor + new.billingRemainderMod60k +
          second.ratePerMinuteNano * (clock (later ++ earlier) - new.lastBilledAtMs) =
        60000 * old.billedNanoXor + old.billingRemainderMod60k +
          first.ratePerMinuteNano * (clock earlier - old.lastBilledAtMs) +
            rateIntegral earlier later ∧
      ∀ event ∈ later, ∀ before after, event.before.room = some before →
        (event.after hub).room = some after →
          after.ratePerMinuteNano ≠ before.ratePerMinuteNano → ChangesRate event before after := by
  obtain ⟨trace, shared⟩ := run.trace
  rw [shared] at found
  have exactly := trace.chargedExactly chronological was found transparent present joined stays
    below
  have well := trace.wellBilled chronological connId new
  rw [roomAfter_of_some found] at well
  exact ⟨exactly.calls, (well stays).remainder, exactly.integral, exactly.rates⟩

def exactHub : HubState :=
  scriptedHub [helloAs "alice@sora",
    .roomConfigUpdate
      { updatedAtMs := 1, ratePerMinuteNano := some 100001, maxScreenShares := none },
    .payment { sentAtMs := 2, amountNanoXor := 1000000, txHashHex := none }]

/-- Alice joins and raises the rate after half a minute. She pays, and then she
is charged by the periodic check. -/
def exactScript : List Move :=
  .connect 1 0 :: sendsFrame 1 0 0 25 ++ sendsFrame 1 1 30001 10 ++ sendsFrame 1 2 45002 6 ++
    [.billingTick 1] ++ List.replicate 2 (.advanceBilling 1 60003)

theorem billing_exact_script :
    ∃ later earlier system first second old new, Run exactHub (later ++ earlier) system ∧
      (sharedAfter exactHub earlier).room = some first ∧ system.shared.room = some second ∧
        first.participants.get? 1 = some old ∧ old.helloSeen = true ∧
        second.participants.get? 1 = some new ∧ new.billedNanoXor = 80004 ∧
        60000 * new.billedNanoXor + new.billingRemainderMod60k =
          60000 * old.billedNanoXor + old.billingRemainderMod60k +
            chargedCalls exactHub 1 later := by
  obtain ⟨history, system, second, run, found, checks⟩ := Run.of_played_room exactHub exactScript
    (fun history room =>
      decide ((clockReadings history).Pairwise (· ≥ ·)) && !room.anonymousMode &&
        (room.participants.get? 1).any (·.billedNanoXor == 80004) &&
          (sharedAfter exactHub (history.drop 10)).room.any fun first =>
            (first.participants.get? 1).any fun old => old.helloSeen &&
              decide (60000 * old.billedNanoXor + old.billingRemainderMod60k +
                chargedCalls exactHub 1 (history.take 10) < 60000 * (u64Max + 1)))
    (by decide +kernel)
  simp only [Bool.and_eq_true, Option.any_eq_true, decide_eq_true_eq, beq_iff_eq,
    Bool.not_eq_true'] at checks
  obtain ⟨⟨⟨chronological, transparent⟩, new, stays, billed⟩, first, was, old, present, joined,
    below⟩ := checks
  rw [← List.take_append_drop 10 history] at run chronological
  exact ⟨history.take 10, history.drop 10, system, first, second, old, new, run, was, found,
    present, joined, stays, billed,
    (billing_exact run chronological was found transparent present joined stays below).1⟩

end Kaigi.Hub
