import Kaigi.Hub.Acknowledgements
import Kaigi.Hub.AnonymousKeys
import Kaigi.Hub.Origins
import Kaigi.Hub.SenderAuthenticity

/-!
# Escrow proofs

An anonymous connection does not pay, it proves again and again that its escrow covers the call.
The hub keeps the escrow and the time of the latest proof that it has accepted.
-/

set_option autoImplicit false

namespace Kaigi.Hub

open Collections Wire Interleaving

/-- An escrow and when it was proved. -/
structure EscrowRecord where
  escrowId : String
  provedAtMs : Nat

/-- The escrow that the operation accepts a proof of. -/
def Operation.proved (connId : ConnId) (op : Operation) (room : RoomState) : Option EscrowRecord :=
  match op with
  | .escrowProof proof nowMs =>
      if (escrowProofSection room connId proof nowMs).2 = some none then
        some ⟨proof.escrowId, nowMs⟩
      else none
  | _ => none

def Event.proved (event : Event) : Option EscrowRecord :=
  event.before.room.bind (event.op.proved event.connId)

/-- The latest proof that the hub has accepted from the connection. -/
def lastProof (connId : ConnId) : List Event → Option EscrowRecord
  | [] => none
  | event :: earlier =>
      if event.connId = connId then event.proved.or (lastProof connId earlier)
      else lastProof connId earlier

/-- The participant holds what the record says. -/
def Holds (participant : ParticipantState) (record : Option EscrowRecord) : Prop :=
  participant.escrowId = record.map (·.escrowId) ∧
    participant.lastEscrowProofAtMs = record.map (·.provedAtMs)

section Step

variable {hub : HubState} {room : RoomState} {actor connId : ConnId} {op : Operation}

/-- What an escrow proof that is accepted has to say, and what the hub makes of it. -/
theorem escrowProofSection_accepted {proof : EscrowProofFrame} {nowMs : Nat}
    (accepted : (escrowProofSection room actor proof nowMs).2 = some none) :
    ∃ participant, room.participants.get? actor = some participant ∧
      room.anonymousMode = true ∧ participant.anonymousMode = true ∧ participant.helloSeen = true ∧
      participant.participantHandle = some proof.payerHandle ∧
      (∀ escrowId, participant.escrowId = some escrowId → escrowId = proof.escrowId) ∧
      (escrowProofSection room actor proof nowMs).1 =
        room.updateParticipant actor fun participant => { participant with
          lastEscrowProofAtMs := some nowMs
          escrowId := some (participant.escrowId.getD proof.escrowId) } := by
  unfold escrowProofSection at accepted ⊢
  split at accepted
  · cases accepted
  · next participant found =>
      dsimp only at accepted ⊢
      split at accepted
      · cases accepted
      · next admitted =>
          refine ⟨participant, found, ?_⟩
          split at admitted
          · cases admitted
          · next anonymous =>
              split at admitted
              · cases admitted
              · next joined =>
                  split at admitted
                  · cases admitted
                  · next payer =>
                      obtain ⟨_, stable⟩ := Option.or_eq_none_iff.mp admitted
                      simp only [Bool.or_eq_true, Bool.not_eq_true', not_or,
                        Bool.not_eq_false] at anonymous joined
                      refine ⟨anonymous.1, anonymous.2, joined, not_not.mp payer, ?_, rfl⟩
                      intro escrowId known
                      rw [known] at stable
                      simpa [validateEscrowIdConsistency] using stable

/-- A proof that is not accepted changes nothing. -/
theorem escrowProofSection_refused {proof : EscrowProofFrame} {nowMs : Nat}
    (refused : (escrowProofSection room actor proof nowMs).2 ≠ some none) :
    (escrowProofSection room actor proof nowMs).1 = room := by
  unfold escrowProofSection at refused ⊢
  split at refused
  · rfl
  · dsimp only at refused ⊢
    split at refused
    · rfl
    · exact absurd rfl refused

/-- Only two operations touch the escrow of a participant. -/
theorem Rewrites.escrow {old new : ParticipantState}
    (rewrites : Rewrites room actor op connId old new) :
    (∃ proof nowMs, op = .escrowProof proof nowMs) ∨
      (room.anonymousMode = false ∧ Holds new none ∧ new.anonymousMode = false) ∨
        (new.escrowId = old.escrowId ∧ new.lastEscrowProofAtMs = old.lastEscrowProofAtMs ∧
          new.anonymousMode = old.anonymousMode) := by
  cases rewrites with
  | hello waiting transparent => exact .inr (.inl ⟨transparent, ⟨rfl, rfl⟩, rfl⟩)
  | escrowed => exact .inl ⟨_, _, rfl⟩
  | rekeyed | state | track | silenced | admitted => exact .inr (.inr ⟨rfl, rfl, rfl⟩)

theorem applyAnonHelloState_escrow {participant joined : ParticipantState}
    {hello : AnonHelloFrame} {nowMs : Nat}
    (accepted : applyAnonHelloState participant hello nowMs = .ok joined) :
    joined.escrowId = participant.escrowId ∧
      joined.lastEscrowProofAtMs = participant.lastEscrowProofAtMs ∧
        joined.anonymousMode = true := by
  unfold applyAnonHelloState at accepted
  dsimp only at accepted
  split at accepted
  · cases accepted
  · cases accepted
    exact ⟨rfl, rfl, rfl⟩

end Step

section Runs

variable {hub : HubState} {history : List Event} {system : System} {connId : ConnId}

theorem Event.proved_eq_some {event : Event} {record : EscrowRecord}
    (proves : event.proved = some record) : ∃ proof room, event.op = .escrowProof proof
      record.provedAtMs ∧ event.before.room = some room ∧ record.escrowId = proof.escrowId ∧
        (escrowProofSection room event.connId proof record.provedAtMs).2 = some none := by
  obtain ⟨room, found, proves⟩ := Option.bind_eq_some_iff.mp proves
  unfold Operation.proved at proves
  split at proves
  · next proof nowMs op =>
      split at proves
      · next accepted =>
          cases proves
          exact ⟨proof, room, op, found, rfl, accepted⟩
      · cases proves
  · cases proves

theorem Trace.lastProof_of_not_connected (trace : Trace hub history)
    (unknown : ¬ Connected history connId) : lastProof connId history = none := by
  refine trace.untold (fun past => lastProof connId past = none) rfl ?_ unknown
  intro event earlier absent nothing
  rw [lastProof, nothing, Option.or_none]
  split
  · next same =>
      cases proves : event.proved with
      | none => rfl
      | some record =>
          obtain ⟨proof, room, _, found, _, accepted⟩ := Event.proved_eq_some proves
          obtain ⟨participant, present, _⟩ := escrowProofSection_accepted accepted
          exact absurd (HubRoom.mem_connections found (same ▸ present)) absent
  · rfl

/-- The participant holds the latest proof of its connection, and only an anonymous one does. -/
structure EscrowKept (connId : ConnId) (history : List Event) (participant : ParticipantState) :
    Prop where
  holds : Holds participant (lastProof connId history)
  anonymous : participant.anonymousMode = false → lastProof connId history = none

theorem EscrowKept.congr {old new : ParticipantState} (kept : EscrowKept connId history old)
    (escrowId : new.escrowId = old.escrowId)
    (provedAtMs : new.lastEscrowProofAtMs = old.lastEscrowProofAtMs)
    (mode : new.anonymousMode = false → old.anonymousMode = false) :
    EscrowKept connId history new :=
  ⟨⟨escrowId.trans kept.holds.1, provedAtMs.trans kept.holds.2⟩, kept.anonymous ∘ mode⟩

theorem lastProof_cons {event : Event} (silent : event.connId = connId → event.proved = none) :
    lastProof connId (event :: history) = lastProof connId history := by
  rw [lastProof]
  split
  · next same =>
      rw [silent same]
      rfl
  · rfl

theorem EscrowKept.cons {event : Event} {participant : ParticipantState}
    (kept : EscrowKept connId history participant)
    (silent : event.connId = connId → event.proved = none) :
    EscrowKept connId (event :: history) participant := by
  constructor
  · rw [lastProof_cons silent]
    exact kept.holds
  · rw [lastProof_cons silent]
    exact kept.anonymous

/-- A proof that is checked. -/
theorem EscrowKept.proof {room : RoomState} {actor : ConnId} {proof : EscrowProofFrame}
    {nowMs : Nat} {task : Task} {state : HubRoom} {new : ParticipantState}
    (found : state.room = some room)
    (kept : ∀ participant, room.participants.get? connId = some participant →
      EscrowKept connId history participant)
    (present : (escrowProofSection room actor proof nowMs).1.participants.get? connId = some new) :
    EscrowKept connId (⟨actor, task, .escrowProof proof nowMs, state⟩ :: history) new := by
  by_cases accepted : (escrowProofSection room actor proof nowMs).2 = some none
  · obtain ⟨participant, was, _, anonymous, _, _, stable, updated⟩ :=
      escrowProofSection_accepted accepted
    simp only [updated, RoomState.updateParticipant, HashMap.get?_modify] at present
    split at present
    · next same =>
        subst same
        rw [was] at present
        cases present
        have proved :
            lastProof connId (⟨connId, task, .escrowProof proof nowMs, state⟩ :: history) =
              some ⟨proof.escrowId, nowMs⟩ := by
          simp [lastProof, Event.proved, Operation.proved, found, accepted]
        have stays : participant.escrowId.getD proof.escrowId = proof.escrowId := by
          cases known : participant.escrowId with
          | none => rfl
          | some escrowId => exact stable escrowId known
        constructor
        · rw [proved]
          exact ⟨congrArg some stays, rfl⟩
        · intro transparent
          rw [show participant.anonymousMode = false from transparent] at anonymous
          cases anonymous
    · next other => exact (kept new present).cons fun same => absurd same (Ne.symm other)
  · rw [escrowProofSection_refused accepted] at present
    exact (kept new present).cons fun _ => by
      simp [Event.proved, Operation.proved, found, accepted]

theorem EscrowKept.rewritten {room : RoomState} {actor : ConnId} {op : Operation}
    {old new : ParticipantState} (kept : EscrowKept connId history old)
    (transparent : room.anonymousMode = false → lastProof connId history = none)
    (other : ∀ proof nowMs, op ≠ .escrowProof proof nowMs)
    (steps : Relation.ReflTransGen (Rewrites room actor op connId) old new) :
    EscrowKept connId history new := by
  induction steps with
  | refl => exact kept
  | tail _ rewrites ih =>
      rcases rewrites.escrow with ⟨proof, nowMs, same⟩ | ⟨mode, holds, _⟩ | ⟨escrowId, proved, mode⟩
      · exact absurd same (other proof nowMs)
      · exact ⟨transparent mode ▸ holds, fun _ => transparent mode⟩
      · exact ih.congr escrowId proved fun shown => mode ▸ shown

theorem Trace.escrow (trace : Trace hub history) {room : RoomState}
    {participant : ParticipantState} (found : (sharedAfter hub history).room = some room)
    (present : room.participants.get? connId = some participant) :
    EscrowKept connId history participant := by
  induction trace generalizing room participant with
  | start => cases found
  | @step earlier event past before lawful ih =>
      by_cases proves : ∃ proof nowMs, event.op = .escrowProof proof nowMs
      · obtain ⟨proof, nowMs, op⟩ := proves
        obtain ⟨actor, task, _, state⟩ := event
        obtain rfl : _ = Operation.escrowProof proof nowMs := op
        obtain ⟨was, had, rfl⟩ := Option.map_eq_some_iff.mp found
        exact .proof had (fun old known => ih (before ▸ had) known) present
      · have other : ∀ proof nowMs, event.op ≠ .escrowProof proof nowMs :=
          fun proof nowMs same => proves ⟨proof, nowMs, same⟩
        have silent : event.proved = none := by
          cases proved : event.proved with
          | none => rfl
          | some record =>
              obtain ⟨proof, _, op, _⟩ := Event.proved_eq_some proved
              exact absurd op (other proof _)
        refine EscrowKept.cons ?_ fun _ => silent
        have known : ∀ {old}, (event.before.opened hub).participants.get? connId = some old →
            EscrowKept connId earlier old := by
          intro old was
          obtain ⟨room, had, same⟩ := HubRoom.opened_found was
          exact ih (before ▸ had) (same ▸ was)
        cases Event.origin found present with
        | connects op same fresh =>
            have unknown := (lawful.once _ op).1
            rw [same] at unknown
            have nothing := past.lastProof_of_not_connected unknown
            rw [fresh]
            exact ⟨by rw [nothing]; exact ⟨rfl, rfl⟩, fun _ => nothing⟩
        | billed was billed =>
            rw [billed]
            exact (known was).congr rfl rfl id
        | @rewritten old was steps =>
            refine (known was).rewritten (fun mode => ?_) other steps
            obtain ⟨room, had, same⟩ := HubRoom.opened_found was
            rw [same] at was mode
            rw [before] at had
            exact (ih had was).anonymous
              ((past.separated room had).transparent mode connId _ (members_groupOf was))
        | anonHello op same was admits accepted =>
            obtain ⟨escrowId, proved, mode⟩ := applyAnonHelloState_escrow accepted
            exact (known was).congr escrowId proved fun shown => by
              rw [mode] at shown
              cases shown

/-- All proofs that the hub accepts from a connection are for one escrow. -/
theorem Trace.oneEscrow (trace : Trace hub history) {event : Event} {record : EscrowRecord}
    (happened : event ∈ history) (same : event.connId = connId)
    (proves : event.proved = some record) :
    ∃ last, lastProof connId history = some last ∧ last.escrowId = record.escrowId := by
  induction trace with
  | start => cases happened
  | @step earlier latest past before lawful ih =>
      rcases List.mem_cons.mp happened with rfl | member
      · exact ⟨record, by simp [lastProof, same, proves], rfl⟩
      · obtain ⟨last, known, escrow⟩ := ih member
        by_cases owns : latest.connId = connId
        · cases proved : latest.proved with
          | none => exact ⟨last, by simp [lastProof, owns, proved, known], escrow⟩
          | some newer =>
              refine ⟨newer, by simp [lastProof, owns, proved], ?_⟩
              obtain ⟨proof, room, _, found, named, accepted⟩ := Event.proved_eq_some proved
              obtain ⟨participant, present, _, _, _, _, stable, _⟩ :=
                escrowProofSection_accepted accepted
              rw [owns] at present
              rw [before] at found
              have holds := (past.escrow found present).holds.1
              rw [known] at holds
              rw [named, ← stable _ holds]
              exact escrow
        · exact ⟨last, by simp [lastProof, owns, known], escrow⟩

/-- Whether the latest proof of a joined anonymous participant is too old. -/
def ProofStale (hub : HubState) (participant : ParticipantState) (record : Option EscrowRecord)
    (nowMs : Nat) : Prop :=
  hub.billing.anonEscrowProofMaxStaleSecs ≠ 0 ∧
    saturatingMul hub.billing.anonEscrowProofMaxStaleSecs 1000 <
      nowMs - ((record.map (·.provedAtMs)).getD participant.lastBilledAtMs)

theorem escrowDisconnectMessage_isSome (hub : HubState) (nowMs : Nat)
    {participant : ParticipantState} {record : Option EscrowRecord}
    (joined : participant.helloSeen = true)
    (holds : Holds participant record) :
    (escrowDisconnectMessage hub.billing participant nowMs).isSome = true ↔
      ProofStale hub participant record nowMs := by
  unfold escrowDisconnectMessage ProofStale
  dsimp only
  rw [holds.2, if_pos joined]
  split
  · next disabled => simp [disabled]
  · next enforced =>
      split
      · next stale =>
          simp only [escrowProofStale, decide_eq_true_eq] at stale
          exact iff_of_true rfl ⟨enforced, stale⟩
      · next recent =>
          simp only [escrowProofStale, decide_eq_true_eq] at recent
          refine iff_of_false (by simp) fun stale => recent stale.2

/-- The periodic check of a joined participant of an anonymous room. -/
theorem billingSection_anonymous {room : RoomState} {participant : ParticipantState} {nowMs : Nat}
    {record : Option EscrowRecord} (present : room.participants.get? connId = some participant)
    (joined : participant.helloSeen = true) (anonymous : room.anonymousMode = true)
    (holds : Holds participant record) :
    (¬ ProofStale hub participant record nowMs →
      billingSection hub room connId nowMs = (room, .goOn)) ∧
    (ProofStale hub participant record nowMs →
      ∃ message, (billingSection hub room connId nowMs).2 = .disconnect message) := by
  have stale := escrowDisconnectMessage_isSome hub nowMs joined holds
  constructor
  · intro recent
    have silent : escrowDisconnectMessage hub.billing participant nowMs = none :=
      Option.not_isSome_iff_eq_none.mp (mt stale.mp recent)
    simp [billingSection, present, anonymous, silent]
  · intro old
    obtain ⟨message, told⟩ := Option.isSome_iff_exists.mp (stale.mpr old)
    simp only [billingSection, present, anonymous, told, joined, Bool.true_or, if_true,
      Option.isNone_some, Bool.and_false, Bool.false_eq_true, if_false]
    split
    · exact ⟨_, rfl⟩
    · next undecided => exact absurd undecided (by split <;> simp)

/-- In every run, whatever the order of proofs, hellos and checks: what the hub remembers of the
escrow of a participant is the latest proof that it has accepted from it; every proof that it
accepts comes from a joined participant of an anonymous room and is for the escrow of the proofs
before; an acknowledgement goes to the prover and reports the decision about its latest proof; and
the periodic check leaves a joined participant of an anonymous room alone, without any charge,
unless its latest proof is too old, and then cuts it off. -/
theorem escrow_accounted (run : Run hub history system) :
    (∀ room connId participant, system.shared.room = some room →
      room.participants.get? connId = some participant →
        Holds participant (lastProof connId history)) ∧
    (∀ newer event older record, history = newer ++ event :: older →
      event.proved = some record →
        (event.before.hasJoined event.connId = true ∧
          ∀ room, event.before.room = some room → room.anonymousMode = true) ∧
        ∀ earlier ∈ older, ∀ previous, earlier.connId = event.connId →
          earlier.proved = some previous → previous.escrowId = record.escrowId) ∧
    (∀ newer event older target ack, history = newer ++ event :: older →
      event.op = .trySend target (.binary (.escrowAck ack)) → target = event.connId ∧
        ∃ lookup decision past proof,
          own target .connection older = lookup :: decision :: past ∧
          decision.verdict = some (proof, ack.reason) ∧ ack.escrowId = proof.escrowId ∧
            ack.accepted = ack.reason.isNone) ∧
    ∀ newer event older nowMs room participant, history = newer ++ event :: older →
      event.op = .billing nowMs → event.before.room = some room →
      room.participants.get? event.connId = some participant → participant.helloSeen = true →
      room.anonymousMode = true →
        (¬ ProofStale hub participant (lastProof event.connId older) nowMs →
          billingSection hub room event.connId nowMs = (room, .goOn)) ∧
        (ProofStale hub participant (lastProof event.connId older) nowMs →
          ∃ message, (billingSection hub room event.connId nowMs).2 = .disconnect message) := by
  obtain ⟨trace, shared⟩ := run.trace
  refine ⟨?_, ?_, ?_, ?_⟩
  · intro room connId participant found present
    exact (trace.escrow (shared ▸ found) present).holds
  · rintro newer event older record rfl proves
    obtain ⟨past, before, _⟩ := trace.lawful
    obtain ⟨proof, room, _, found, named, accepted⟩ := Event.proved_eq_some proves
    obtain ⟨participant, present, anonymous, _, joined, _, stable, _⟩ :=
      escrowProofSection_accepted accepted
    refine ⟨⟨?_, ?_⟩, ?_⟩
    · exact HubRoom.hasJoined_iff.mpr ⟨room, found, by simp [RoomState.helloSeen, present, joined]⟩
    · intro other same
      rw [found] at same
      cases same
      exact anonymous
    · intro earlier member previous same proved
      obtain ⟨last, known, escrow⟩ := past.oneEscrow member same proved
      rw [before] at found
      have holds := (past.escrow found present).holds.1
      rw [known] at holds
      rw [named, ← stable _ holds]
      exact escrow.symm
  · intro newer event older target ack split sends
    obtain ⟨rfl, lookup, decision, past, latest, _, _, answers⟩ := run.acknowledged split sends rfl
    cases answers with
    | @escrow proof reason receivedAtMs decided =>
        exact ⟨rfl, lookup, decision, past, proof, latest, decided, rfl, rfl⟩
  · rintro newer event older nowMs room participant rfl checks found present joined anonymous
    obtain ⟨past, before, _⟩ := trace.lawful
    rw [before] at found
    exact billingSection_anonymous present joined anonymous (past.escrow found present).holds

end Runs

/-- The fox proves one escrow and then tries another. -/
def escrowHub : HubState :=
  scriptedHub [anonHelloAs "fox",
    .escrowProof { sentAtMs := 2, payerHandle := "fox", escrowId := "den", proofHex := "00ff" },
    .escrowProof { sentAtMs := 3, payerHandle := "fox", escrowId := "burrow", proofHex := "00ff" }]

def escrowScript : List Move :=
  .connect 1 0 :: sendsFrame 1 0 1 12 ++ sendsFrame 1 1 2 8 ++ sendsFrame 1 2 3 8

theorem escrow_accounted_script :
    ∃ history system room participant, Run escrowHub history system ∧
      system.shared.room = some room ∧ room.participants.get? 1 = some participant ∧
        participant.lastEscrowProofAtMs = some 2 ∧ participant.escrowId = some "den" ∧
          (lastProof 1 history).map (·.escrowId) = some "den" := by
  obtain ⟨history, system, room, run, found, checks⟩ := Run.of_played_room escrowHub escrowScript
    (fun _ room => (room.participants.get? 1).any fun participant =>
      participant.lastEscrowProofAtMs == some 2 && participant.escrowId == some "den")
    (by decide +kernel)
  obtain ⟨participant, present, proved⟩ := (Option.any_eq_true ..).mp checks
  simp only [Bool.and_eq_true, beq_iff_eq] at proved
  have holds := (escrow_accounted run).1 room 1 participant found present
  exact ⟨history, system, room, participant, run, found, present, proved.1, proved.2,
    holds.1.symm.trans proved.2⟩

end Kaigi.Hub
