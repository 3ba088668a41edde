import Kaigi.Hub.Acknowledgements
import Kaigi.Hub.Origins
import Kaigi.Hub.SenderAuthenticity

/-!
# Payments

The hub keeps one number for what a connection has paid. It is the sum of the payments that it
has accepted from that connection, it is what the acknowledgements say, and it is what the
periodic check compares with the bill.
-/

set_option autoImplicit false

namespace Kaigi.Hub

open Collections Wire Interleaving

/-- What a participant has paid after a payment that may have been accepted. -/
def credited (paidNanoXor : Nat) (receipt : Option PaymentAckFrame) : Nat :=
  (receipt.map fun ack => saturatingAdd paidNanoXor ack.amountNanoXor).getD paidNanoXor

/-- The sum of the payments that the hub has accepted from the connection. -/
def paidBy (hub : HubState) (connId : ConnId) : List Event → Nat
  | [] => 0
  | event :: earlier => paidBy hub connId earlier +
      if event.connId = connId then ((event.receipt hub).map (·.amountNanoXor)).getD 0 else 0

section Step

variable {hub : HubState} {room : RoomState} {actor connId : ConnId} {op : Operation}

@[simp] theorem advanceBilling_paidNanoXor (participant : ParticipantState) (rate nowMs : Nat) :
    (advanceBilling participant rate nowMs).paidNanoXor = participant.paidNanoXor := by
  unfold advanceBilling
  dsimp only
  split <;> rfl

theorem applyAnonHelloState_paidNanoXor {participant joined : ParticipantState}
    {hello : AnonHelloFrame} {nowMs : Nat}
    (accepted : applyAnonHelloState participant hello nowMs = .ok joined) :
    joined.paidNanoXor = participant.paidNanoXor := by
  unfold applyAnonHelloState at accepted
  dsimp only at accepted
  split at accepted
  · cases accepted
  · cases accepted
    rfl

theorem Rewrites.paidNanoXor {old new : ParticipantState}
    (rewrites : Rewrites room actor op connId old new) : new.paidNanoXor = old.paidNanoXor := by
  cases rewrites <;> rfl

/-- A payment is added to what its sender has paid, and nobody else pays. -/
def Credits (room : RoomState) (actor : ConnId) (receipt : Option PaymentAckFrame)
    (after : RoomState) : Prop :=
  ∀ connId new, after.participants.get? connId = some new →
    ∃ old, room.participants.get? connId = some old ∧ new.paidNanoXor =
      if actor = connId then credited old.paidNanoXor receipt else old.paidNanoXor

theorem Credits.kept {after : RoomState} (same : ∀ connId new,
    after.participants.get? connId = some new → ∃ old,
      room.participants.get? connId = some old ∧ new.paidNanoXor = old.paidNanoXor) :
    Credits room actor none after := by
  intro connId new found
  obtain ⟨old, was, paid⟩ := same connId new found
  refine ⟨old, was, ?_⟩
  rw [paid]
  exact (ite_self _).symm

theorem Credits.refl (room : RoomState) (actor : ConnId) : Credits room actor none room :=
  .kept fun _ new found => ⟨new, found, rfl⟩

theorem Credits.update {participant : ParticipantState} {receipt : Option PaymentAckFrame}
    {update : ParticipantState → ParticipantState}
    (found : room.participants.get? actor = some participant)
    (paid : (update participant).paidNanoXor = credited participant.paidNanoXor receipt) :
    Credits room actor receipt (room.updateParticipant actor update) := by
  intro connId new present
  simp only [RoomState.updateParticipant, HashMap.get?_modify] at present
  split at present
  · next same =>
      subst same
      rw [found] at present
      cases present
      exact ⟨participant, found, by rw [if_pos rfl, paid]⟩
  · next other => exact ⟨new, present, by rw [if_neg (Ne.symm other)]⟩

theorem Descends.credits {after : RoomState} (descends : Descends room actor op after) :
    Credits room actor none after := by
  refine .kept fun connId new found => ?_
  obtain ⟨old, was, steps⟩ := descends connId new found
  refine ⟨old, was, ?_⟩
  clear found
  induction steps with
  | refl => rfl
  | tail _ rewrites ih => exact rewrites.paidNanoXor.trans ih

theorem billingSection_credits (hub : HubState) (room : RoomState) (actor : ConnId) (nowMs : Nat) :
    Credits room actor none (billingSection hub room actor nowMs).1 := by
  unfold billingSection
  split
  · exact .refl room actor
  · next participant found =>
      dsimp only
      split_ifs
      all_goals first
        | exact .refl room actor
        | exact .update found (advanceBilling_paidNanoXor _ _ _)
        | exact .update found rfl

/-- An accepted payment is added to what its sender has paid so far. -/
theorem paymentSection_credits (hub : HubState) (room : RoomState) (actor : ConnId)
    (payment : PaymentFrame) (nowMs : Nat) :
    Credits room actor ((paymentSection hub room actor payment nowMs).2.receipt payment nowMs)
      (paymentSection hub room actor payment nowMs).1 := by
  unfold paymentSection
  split
  · exact .refl room actor
  · next participant found =>
      split
      · exact .update found rfl
      · dsimp only
        split
        · exact .update found (advanceBilling_paidNanoXor _ _ _)
        · refine .update found ?_
          simp [credited, PaymentOutcome.receipt]

theorem updateRoom_credits (hub : HubState) (room : RoomState) (actor : ConnId) (op : Operation) :
    Credits room actor (op.receipt hub actor room) (op.updateRoom hub actor room) := by
  have descends : op.movesCursors = false →
      Credits room actor none (op.updateRoom hub actor room) :=
    fun uncharged =>
      ((descends_survives room actor op).updateRoom uncharged (.refl room actor op)).credits
  cases op with
  | billing nowMs => exact billingSection_credits hub room actor nowMs
  | payment payment nowMs => exact paymentSection_credits hub room actor payment nowMs
  | roomConfigUpdate update nowMs =>
      change Credits room actor none (roomConfigUpdateSection hub room actor update nowMs).1
      rcases roomConfigUpdateSection_charges hub room actor update nowMs with
        refused | ⟨_, _, charges⟩
      · rw [refused]
        exact .refl room actor
      · refine .kept fun connId new found => ?_
        obtain ⟨old, was, rfl⟩ := charges connId new found
        exact ⟨old, was, advanceBilling_paidNanoXor _ _ _⟩
  | anonHello frame nowMs rosterAtMs =>
      refine .kept fun connId new found => ?_
      change (anonHelloSection hub room actor frame nowMs rosterAtMs).1.participants.get? connId =
        some new at found
      cases anonHelloSection_hellos hub room actor frame nowMs rosterAtMs with
      | refused participants => exact ⟨new, participants ▸ found, rfl⟩
      | @accepted participant joined _ admits was accepted participants =>
          rw [participants, HashMap.get?_modify] at found
          split at found
          · next same =>
              subst same
              rw [was] at found
              cases found
              exact ⟨participant, was, applyAnonHelloState_paidNanoXor accepted⟩
          · exact ⟨new, found, rfl⟩
  | _ => exact descends rfl

/-- An acknowledgement says what its receiver has paid in total. -/
theorem receipt_eq_some {ack : PaymentAckFrame} (accepted : op.receipt hub actor room = some ack) :
    ∃ participant, room.participants.get? actor = some participant ∧
      ack.totalPaidNanoXor = saturatingAdd participant.paidNanoXor ack.amountNanoXor := by
  unfold Operation.receipt at accepted
  split at accepted
  · next payment nowMs =>
      unfold paymentSection at accepted
      split at accepted
      · cases accepted
      · next participant found =>
          split at accepted
          · cases accepted
          · dsimp only at accepted
            split at accepted
            · cases accepted
            · cases accepted
              exact ⟨participant, found, by simp⟩
  · cases accepted

end Step

section Runs

variable {hub : HubState} {history : List Event} {system : System} {connId : ConnId}

/-- Whoever connects has paid nothing, and everybody else what the event credits. -/
theorem Event.credits {event : Event} {after : RoomState} {new : ParticipantState}
    (left : (event.after hub).room = some after)
    (found : after.participants.get? connId = some new) :
    ((∃ connectedAtMs, event.op = .connect connectedAtMs) ∧ event.connId = connId ∧
      new.paidNanoXor = 0) ∨
    ∃ room old, event.before.room = some room ∧ room.participants.get? connId = some old ∧
      new.paidNanoXor = if event.connId = connId then credited old.paidNanoXor (event.receipt hub)
        else old.paidNanoXor := by
  obtain ⟨actor, task, op, state⟩ := event
  dsimp only
  have credit : ∀ {room : RoomState}, state.room = some room →
      Credits room actor (op.receipt hub actor room) after → ∃ room old,
        state.room = some room ∧ room.participants.get? connId = some old ∧ new.paidNanoXor =
          if actor = connId then
            credited old.paidNanoXor (Event.receipt hub ⟨actor, task, op, state⟩)
          else old.paidNanoXor := by
    intro room present credits
    obtain ⟨old, was, paid⟩ := credits connId new found
    refine ⟨room, old, present, was, ?_⟩
    rw [paid, Event.receipt, present]
    rfl
  have updated : state.room.map (op.updateRoom hub actor) = some after → ∃ room old,
      state.room = some room ∧ room.participants.get? connId = some old ∧ new.paidNanoXor =
        if actor = connId then credited old.paidNanoXor (Event.receipt hub ⟨actor, task, op, state⟩)
        else old.paidNanoXor := by
    intro same
    obtain ⟨room, present, rfl⟩ := Option.map_eq_some_iff.mp same
    exact credit present (updateRoom_credits hub room actor op)
  cases op with
  | connect connectedAtMs =>
      cases left
      rw [HashMap.get?_put] at found
      split at found
      · next same =>
          cases found
          exact .inl ⟨⟨connectedAtMs, rfl⟩, same.symm, rfl⟩
      · cases present : state.room with
        | none =>
            rw [present] at found
            cases found
        | some room =>
            rw [present] at found
            exact .inr ⟨room, new, rfl, found, by simp [Event.receipt, Operation.receipt, present,
              credited]⟩
  | disconnect deltaAtMs leftAtMs =>
      obtain ⟨room, present, remains⟩ := Option.bind_eq_some_iff.mp left
      have survives := descends_survives room actor (.disconnect deltaAtMs leftAtMs)
      exact .inr <| credit present (survives.disconnectSection
        (survives.removed actor fun _ old was => ⟨old, was, .refl⟩) remains).credits
  | trySend | takeMessage | closeChannel => exact .inr <| credit left (.refl after actor)
  | _ => exact .inr <| updated left

/-- Only who is in the room pays. -/
theorem Event.receipt_payer {event : Event} {ack : PaymentAckFrame}
    (accepted : event.receipt hub = some ack) :
    ∃ room participant, event.before.room = some room ∧
      room.participants.get? event.connId = some participant ∧
        ack.totalPaidNanoXor = saturatingAdd participant.paidNanoXor ack.amountNanoXor := by
  obtain ⟨room, found, accepted⟩ := Option.bind_eq_some_iff.mp accepted
  obtain ⟨participant, present, total⟩ := receipt_eq_some accepted
  exact ⟨room, participant, found, present, total⟩

theorem Trace.paidBy_of_not_connected (trace : Trace hub history)
    (unknown : ¬ Connected history connId) : paidBy hub connId history = 0 := by
  refine trace.untold (fun past => paidBy hub connId past = 0) rfl ?_ unknown
  intro event earlier absent nothing
  rw [paidBy, nothing, Nat.zero_add]
  split
  · next same =>
      cases accepted : event.receipt hub with
      | none => rfl
      | some ack =>
          obtain ⟨room, participant, found, present, _⟩ := Event.receipt_payer accepted
          exact absurd (HubRoom.mem_connections found (same ▸ present)) absent
  · rfl

/-- What a participant has paid is the sum of the payments that were accepted from it. -/
theorem Trace.paid (trace : Trace hub history) {room : RoomState} {participant : ParticipantState}
    (found : (sharedAfter hub history).room = some room)
    (present : room.participants.get? connId = some participant) :
    participant.paidNanoXor = min (paidBy hub connId history) u64Max := by
  induction trace generalizing room participant with
  | start => cases found
  | @step earlier event past before lawful ih =>
      rcases Event.credits found present with ⟨⟨connectedAtMs, connects⟩, same, paid⟩ |
          ⟨old, was, had, known, paid⟩
      · have unknown := (lawful.once connectedAtMs connects).1
        rw [same] at unknown
        have silent : event.receipt hub = none := by
          unfold Event.receipt
          rw [connects]
          cases event.before.room <;> rfl
        rw [paid, paidBy, past.paidBy_of_not_connected unknown, silent]
        simp
      · have sum := ih (before ▸ had) known
        rw [paid, paidBy, sum]
        split
        · cases event.receipt hub with
          | none => rfl
          | some ack =>
              simp only [credited, saturatingAdd, Option.map_some, Option.getD_some]
              omega
        · rfl

/-- The periodic check of a joined participant of a transparent room. -/
theorem billingSection_disconnects {room : RoomState} {participant : ParticipantState} {nowMs : Nat}
    (present : room.participants.get? connId = some participant)
    (joined : participant.helloSeen = true) (transparent : room.anonymousMode = false)
    (shown : participant.anonymousMode = false) :
    (∃ message, (billingSection hub room connId nowMs).2 = .disconnect message) ↔
      0 < room.ratePerMinuteNano ∧
        saturatingAdd participant.paidNanoXor (hub.billing.graceNano room.ratePerMinuteNano) <
          (advanceBilling participant room.ratePerMinuteNano nowMs).billedNanoXor := by
  have still : (advanceBilling participant room.ratePerMinuteNano nowMs).helloSeen = true := by
    unfold advanceBilling
    dsimp only
    split <;> exact joined
  simp only [billingSection, present, transparent, shown, joined, still, Bool.or_self,
    Bool.false_and, Bool.true_and, Bool.false_eq_true, if_false, if_true,
      advanceBilling_paidNanoXor]
  by_cases owes : 0 < room.ratePerMinuteNano ∧
      saturatingAdd participant.paidNanoXor (hub.billing.graceNano room.ratePerMinuteNano) <
        (advanceBilling participant room.ratePerMinuteNano nowMs).billedNanoXor
  · simp [owes]
  · have paid : (decide (room.ratePerMinuteNano > 0) &&
        decide ((advanceBilling participant room.ratePerMinuteNano nowMs).billedNanoXor >
          saturatingAdd participant.paidNanoXor
            (hub.billing.graceNano room.ratePerMinuteNano))) = false := by
      rw [← Bool.decide_and]
      exact decide_eq_false owes
    simp [paid, owes]

/-- In every run, whatever the order of payments, checks, joins and rate changes: what the hub
remembers as paid by a participant is the sum of the payments that it has accepted from it; an
acknowledgement goes to the payer, answers its latest payment, and reports the sum up to there; and
the periodic check cuts off a joined participant of a transparent room exactly when its bill exceeds
that sum and the grace. -/
theorem payments_accounted (run : Run hub history system) :
    (∀ room connId participant, system.shared.room = some room →
      room.participants.get? connId = some participant →
        participant.paidNanoXor = min (paidBy hub connId history) u64Max) ∧
    (∀ newer event older target ack, history = newer ++ event :: older →
      event.op = .trySend target (.binary (.paymentAck ack)) → target = event.connId ∧
        ∃ lookup payment past since before,
          own target .connection older = lookup :: payment :: past ∧
          older = since ++ payment :: before ∧ payment.receipt hub = some ack ∧
            ack.totalPaidNanoXor = min (paidBy hub target (payment :: before)) u64Max) ∧
    ∀ newer event older nowMs room participant, history = newer ++ event :: older →
      event.op = .billing nowMs → event.before.room = some room →
      room.participants.get? event.connId = some participant → participant.helloSeen = true →
      room.anonymousMode = false →
        ((∃ message, (billingSection hub room event.connId nowMs).2 = .disconnect message) ↔
          0 < room.ratePerMinuteNano ∧
            saturatingAdd (min (paidBy hub event.connId older) u64Max)
                (hub.billing.graceNano room.ratePerMinuteNano) <
              (advanceBilling participant room.ratePerMinuteNano nowMs).billedNanoXor) := by
  obtain ⟨trace, shared⟩ := run.trace
  refine ⟨?_, ?_, ?_⟩
  · intro room connId participant found present
    exact trace.paid (shared ▸ found) present
  · intro newer event older target ack split sends
    obtain ⟨rfl, lookup, payment, past, latest, _, same, answers⟩ :=
      run.acknowledged split sends rfl
    obtain ⟨since, before, rfl, _, _, _⟩ :=
      own_eq_append
        (show own event.connId .connection older = [lookup] ++ payment :: past from latest)
    cases answers with
    | payment accepted =>
        refine ⟨rfl, lookup, payment, past, since, before, latest, rfl, accepted, ?_⟩
        obtain ⟨room, participant, found, present, total⟩ := Event.receipt_payer accepted
        subst split
        have earlier : Trace hub (since ++ payment :: before) := trace.lawful.1
        obtain ⟨past, before, _⟩ := earlier.lawful
        rw [before] at found
        rw [total, past.paid found present, paidBy, if_pos same, accepted, same]
        simp only [saturatingAdd, Option.map_some, Option.getD_some]
        omega
  · intro newer event older nowMs room participant split checks found present joined transparent
    subst split
    obtain ⟨past, before, _⟩ := trace.lawful
    rw [before] at found
    have shown := (past.separated room found).transparent transparent event.connId _
      (members_groupOf present)
    rw [billingSection_disconnects present joined transparent shown, past.paid found present]

end Runs

/-- Alice pays twice. -/
def paymentHub : HubState :=
  scriptedHub [helloAs "alice@sora",
    .payment { sentAtMs := 2, amountNanoXor := 1000000, txHashHex := none },
    .payment { sentAtMs := 3, amountNanoXor := 500000, txHashHex := none }]

def paymentScript : List Move :=
  .connect 1 0 :: sendsFrame 1 0 0 25 ++ sendsFrame 1 1 2 8 ++ sendsFrame 1 2 3 8

theorem payments_accounted_script :
    ∃ history system room participant, Run paymentHub history system ∧
      system.shared.room = some room ∧ room.participants.get? 1 = some participant ∧
        participant.paidNanoXor = 1500000 ∧ min (paidBy paymentHub 1 history) u64Max = 1500000 := by
  obtain ⟨history, system, room, run, found, checks⟩ := Run.of_played_room paymentHub paymentScript
    (fun _ room => (room.participants.get? 1).any (·.paidNanoXor == 1500000)) (by decide +kernel)
  obtain ⟨participant, present, paid⟩ := (Option.any_eq_true ..).mp checks
  rw [beq_iff_eq] at paid
  have accounted := (payments_accounted run).1 room 1 participant found present
  exact ⟨history, system, room, participant, run, found, present, paid, accounted.symm.trans paid⟩

end Kaigi.Hub
