import Kaigi.Hub.BillingTask
import Kaigi.Hub.HandlerRules

/-!
# Acknowledgements

A payment and an escrow proof are answered by the hub. The answer is sent after the critical
section that has decided about it, when other tasks may have run. It still says what that section
has decided, goes to the sender, and is the only answer.
-/

set_option autoImplicit false

namespace Kaigi.Hub

open Collections Wire Interleaving

/-- The acknowledgement of a payment that is accepted. -/
def PaymentOutcome.receipt (payment : PaymentFrame) (nowMs : Nat) :
    PaymentOutcome → Option PaymentAckFrame
  | .accepted paidNanoXor billedNanoXor => some {
      receivedAtMs := nowMs
      amountNanoXor := payment.amountNanoXor
      totalPaidNanoXor := paidNanoXor
      totalBilledNanoXor := billedNanoXor }
  | _ => none

/-- The acknowledgement of the payment that the operation accepts. -/
def Operation.receipt (hub : HubState) (connId : ConnId) (op : Operation) (room : RoomState) :
    Option PaymentAckFrame :=
  match op with
  | .payment frame nowMs => (paymentSection hub room connId frame nowMs).2.receipt frame nowMs
  | _ => none

def Event.receipt (hub : HubState) (event : Event) : Option PaymentAckFrame :=
  event.before.room.bind (event.op.receipt hub event.connId)

/-- What the operation decides about the escrow proof that it checks. -/
def Operation.verdict (connId : ConnId) (op : Operation) (room : RoomState) :
    Option (EscrowProofFrame × Option String) :=
  match op with
  | .escrowProof proof nowMs =>
      (escrowProofSection room connId proof nowMs).2.map fun reason => (proof, reason)
  | _ => none

def Event.verdict (event : Event) : Option (EscrowProofFrame × Option String) :=
  event.before.room.bind (event.op.verdict event.connId)

/-- The frame answers the request that the event has decided about. -/
inductive Event.Answers (hub : HubState) (event : Event) : KaigiFrame → Prop where
  | payment {ack : PaymentAckFrame} : event.receipt hub = some ack →
      event.Answers hub (.paymentAck ack)
  | escrow {proof : EscrowProofFrame} {reason : Option String} (receivedAtMs : Nat) :
      event.verdict = some (proof, reason) → event.Answers hub (.escrowAck {
        receivedAtMs := receivedAtMs
        escrowId := proof.escrowId
        accepted := reason.isNone
        reason := reason })

/-- The latest operations of the task are the decision and the lookup of its own channel. -/
def Decided (hub : HubState) (connId : ConnId) (past : List Event) (frame : KaigiFrame) : Prop :=
  ∃ lookup decision older, past = lookup :: decision :: older ∧ lookup.op = .lookup connId ∧
    decision.Answers hub frame

/-- A task acknowledges what it has just decided, and to its own connection only. -/
def AcksTruly (hub : HubState) (connId : ConnId) (past : List Event) (op : Operation)
    (_ : HubRoom) : Prop :=
  ∀ target frame, op = .trySend target (.binary frame) → isAck frame = true →
    target = connId ∧ Decided hub connId past frame

section Handlers

variable {hub : HubState} {connId : ConnId} {world : World}

abbrev ackContract (hub : HubState) (connId : ConnId) :
    Contract HubRoom World Operation HubError :=
  ownContract hub connId (AcksTruly hub connId)

abbrev Acks (hub : HubState) (connId : ConnId) {Value : Type} (program : Handler Value)
    (world : World) : Prop :=
  program.Meets (ackContract hub connId) (fun _ _ => True) world

theorem acksTruly_of_other {op : Operation} {past : List Event} (state : HubRoom)
    (other : ∀ target frame, op = .trySend target (.binary frame) → isAck frame = false) :
    AcksTruly hub connId past op state := by
  intro target frame sends acks
  rw [other target frame sends] at acks
  cases acks

theorem isAck_of_private {frame : KaigiFrame} (alone : isPrivate frame = true) :
    isAck frame = false := by
  cases frame <;> first | rfl | cases alone

theorem isAck_of_managed {frame : KaigiFrame} (managed : isManaged frame = true) :
    isAck frame = false := by
  cases frame <;> first | rfl | cases managed

/-- The frames that are acknowledged. -/
def isAnswered : KaigiFrame → Bool
  | .escrowProof _ | .payment _ => true
  | _ => false

theorem isAck_of_relayed {frame sent : KaigiFrame} (unanswered : isAnswered frame = false)
    (relayed : relays frame sent = true) : isAck sent = false := by
  cases sent with
  | escrowAck | paymentAck => cases frame <;> first | (cases unanswered; done) | cases relayed
  | _ => rfl

theorem acks_parts : AdmitsParts (AcksTruly hub connId) := by
  intro op past state part
  apply acksTruly_of_other state
  rintro target frame rfl
  exact isAck_of_private part

/-- A task may always broadcast what acknowledges nothing. -/
theorem handlerRules_silent (hub : HubState) (connId : ConnId) :
    HandlerRules hub (fun frame => isAck frame = false)
      fun program => program.Keeps (ackContract hub connId) fun _ => True := by
  apply handlerRules_of_admits hub isAck_of_managed
  · exact acks_parts
  · exact fun _ _ _ state => acksTruly_of_other state fun _ _ sends => by cases sends
  · exact fun _ _ state _ => acksTruly_of_other state fun _ _ sends => by cases sends
  · intro frame target past state silent
    apply acksTruly_of_other
    intro other sent sends
    cases sends
    exact silent

/-- The answer follows the decision. -/
theorem acks_sendFrameTo {decision : Event} {older : List Event} {frame : KaigiFrame}
    (latest : world.own = decision :: older) (answers : decision.Answers hub frame) :
    Acks hub connId (sendFrameTo hub connId frame) world := by
  unfold sendFrameTo encodeOrFail
  split
  · trivial
  · rintro ⟨shared, own⟩ same
    obtain rfl : own = world.own := same
    refine ⟨acksTruly_of_other shared (fun _ _ sends => by cases sends), ?_⟩
    have decided : Decided hub connId
        (⟨connId, .connection, .lookup connId, shared⟩ :: world.own) frame :=
      ⟨_, decision, older, by rw [latest], rfl, answers⟩
    dsimp only
    split
    · trivial
    · split
      · rintro ⟨later, past⟩ kept
        obtain rfl : past = _ := kept
        refine ⟨?_, fun _ _ => trivial⟩
        intro target sent sends acks
        cases sends
        exact ⟨rfl, decided⟩
      · trivial

theorem acks_handlePayment (payment : PaymentFrame) :
    Acks hub connId (handlePayment hub connId payment) world := by
  refine acks_parts.section rfl fun _ _ => ?_
  split
  · exact acks_parts.error _
  · refine meets_nowMs fun now => acks_parts.section rfl fun _ state => ?_
    split
    · exact acks_parts.done ()
    · exact acks_parts.error _
    · exact acks_parts.error _
    · next paidNanoXor billedNanoXor accepted =>
        apply acks_sendFrameTo rfl
        apply Event.Answers.payment
        cases found : state.room with
        | none =>
            rw [found] at accepted
            cases accepted
        | some room =>
            rw [found, Option.map_some, Option.getD_some] at accepted
            simp [Event.receipt, Operation.receipt, PaymentOutcome.receipt, found, accepted]

theorem acks_handleEscrowProof (proof : EscrowProofFrame) :
    Acks hub connId (handleEscrowProof hub connId proof) world := by
  refine meets_nowMs fun now => acks_parts.section rfl fun _ state => ?_
  split
  · exact acks_parts.done ()
  · next reason decided =>
      refine meets_nowMs fun receivedAtMs => acks_sendFrameTo rfl ?_
      apply Event.Answers.escrow
      obtain ⟨room, found, checked⟩ := Option.bind_eq_some_iff.mp decided
      simp [Event.verdict, Operation.verdict, found, checked]

theorem acks_handleFrame (frame : KaigiFrame) :
    Acks hub connId (handleFrame hub connId frame) world := by
  cases answers : isAnswered frame with
  | true =>
      cases frame with
      | payment payment => exact acks_handlePayment payment
      | escrowProof proof => exact acks_handleEscrowProof proof
      | _ => cases answers
  | false =>
      refine (handlerRules_silent hub connId).handleFrame frame ?_ world trivial
      intro sent relayed
      exact isAck_of_relayed answers relayed

theorem acks_handleDisconnect : Acks hub connId (handleDisconnect hub connId) world := by
  refine (handlerRules_silent hub connId).handleDisconnect (fun _ => rfl) ?_ world trivial
  intro Value deltaAtMs leftAtMs next rest
  exact .atomic (stable_own fun _ => True)
    (fun world _ => acksTruly_of_other world.shared fun _ _ sends => by cases sends)
      (fun _ _ => trivial) rest

end Handlers

/-- Every connection task acknowledges truly. -/
def ackProtocol (hub : HubState) (connId : ConnId) : Protocol hub connId where
  admits := AcksTruly hub connId
  resting _ := True
  connects _ _ := trivial
  pongs _ _ _ _ := ⟨acksTruly_of_other _ (fun _ _ sends => by cases sends), trivial⟩
  serves frame _ _ := acks_handleFrame frame
  leaves _ _ := acks_handleDisconnect

/-- Every acknowledgement of a run tells its target what the task of the target has just decided. -/
theorem Run.acknowledged {hub : HubState} {history newer older : List Event} {system : System}
    (run : Run hub history system) {event : Event} {target : ConnId} {frame : KaigiFrame}
    (split : history = newer ++ event :: older) (sends : event.op = .trySend target (.binary frame))
    (acks : isAck frame = true) :
    target = event.connId ∧ ∃ lookup decision past,
      own event.connId .connection older = lookup :: decision :: past ∧
        lookup.op = .lookup event.connId ∧ decision.connId = event.connId ∧
          decision.Answers hub frame := by
  have task : event.task = .connection := by
    apply run.frame_task (by simp [split]) (by rw [sends]; rfl)
    rintro notice rfl
    cases acks
  rcases ((ackProtocol hub event.connId).kept run).admitted newer event older split rfl task with
    ⟨_, connects⟩ | admitted
  · rw [connects] at sends
    cases sends
  · obtain ⟨same, lookup, decision, past, latest, looks, answers⟩ :=
      admitted target frame sends acks
    have owned : decision ∈ own event.connId .connection older := by simp [latest]
    exact ⟨same, lookup, decision, past, latest, looks, (mem_own.mp owned).2.1, answers⟩

end Kaigi.Hub
