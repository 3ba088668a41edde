import Kaigi.Client.PolicyCommands
import Kaigi.Hub.AnonymousRoster
import Kaigi.Hub.PolicyProvenance

/-!
# A session of policy commands

The room of a hub and one client of `room_chat` that issues policy commands. Its updates
reach the hub one after the other, and it reads what the hub has put into its queue, both
at any later time.
-/

set_option autoImplicit false

namespace Kaigi.Client

open Collections Wire Hub Interleaving

deriving instance DecidableEq for SessionPolicyFrame

/-- A command, with the update that was sent for it. The client had read `batch` policies
when it was issued, and `base` was the last of them. -/
structure Issued where
  command : PolicyCommand
  update : SessionPolicyFrame
  batch : Nat
  base : SessionPolicyFrame

/-- What became of a command: the hub has accepted its update in an event, or not. The
events `past` were before. -/
structure Outcome where
  issued : Issued
  accepted : Option Event
  past : List Event

structure PolicySession where
  system : System
  /-- The events of the hub, the latest first. -/
  events : List Event
  /-- What the client has not yet read of its queue. -/
  inbox : List KaigiFrame
  /-- What the hub has not yet handled of its commands. -/
  outbox : List Issued
  policy : LocalSessionPolicyState
  batch : Nat
  base : SessionPolicyFrame

inductive SessionMove where
  | hub (move : Move)
  /-- The hub refuses the update before it comes to the policy of the room. -/
  | refuse
  | command (input : String) (atMs : Nat)
  | process

/-- The update that the connection asks the room to apply. -/
def appliedPolicy (connId : ConnId) (event : Event) : Option SessionPolicyFrame :=
  match event.op with
  | .sessionPolicy update => if event.connId = connId then some update else none
  | _ => none

def PolicySession.initial : PolicySession where
  system := System.initial
  events := []
  inbox := []
  outbox := []
  policy := {}
  batch := 0
  base := sessionPolicyFrame none

section Session

variable (hub : HubState) (connId : ConnId) (participantId : String)

/-- An event of the hub. A connection task handles the updates as they were sent. -/
def PolicySession.observe (session : PolicySession) (event : Event) : Option PolicySession :=
  let observed := { session with
    events := event :: session.events
    inbox := session.inbox ++ (event.enqueues connId).toList }
  match appliedPolicy connId event with
  | none => some observed
  | some update =>
    match session.outbox with
    | [] => none
    | issued :: rest =>
      if issued.update = update then some { observed with outbox := rest } else none

def PolicySession.issue (session : PolicySession) (command : PolicyCommand) (atMs : Nat) :
    PolicySession :=
  let policy := session.policy.command command
  { session with
    policy := policy
    outbox := session.outbox ++
      [⟨command, policyUpdate hub participantId policy atMs, session.batch, session.base⟩] }

def PolicySession.read (session : PolicySession) (frame : KaigiFrame) : PolicySession :=
  match frame with
  | .sessionPolicy policy =>
      { session with
        policy := readSessionPolicy policy
        batch := session.batch + 1
        base := policy }
  | _ => session

def PolicySession.step (session : PolicySession) : SessionMove → Option PolicySession
  | .hub move =>
      ((hubMachine hub).step session.system move).bind fun system =>
        match (hubMachine hub).event session.system move with
        | none => some { session with system := system }
        | some event => { session with system := system }.observe connId event
  | .refuse =>
      match session.outbox with
      | [] => none
      | _ :: rest => some { session with outbox := rest }
  | .command input atMs =>
      match readPolicyCommand input with
      | some (.ok command) => some (session.issue hub participantId command atMs)
      | _ => none
  | .process =>
      match session.inbox with
      | [] => none
      | frame :: rest => some ({ session with inbox := rest }.read frame)

/-- What the move settles. -/
def PolicySession.settles (session : PolicySession) : SessionMove → Option Outcome
  | .hub move =>
      ((hubMachine hub).event session.system move).bind fun event =>
        (appliedPolicy connId event).bind fun _ =>
          session.outbox.head?.map fun issued =>
            ⟨issued, if (event.accepted hub).isSome then some event else none, session.events⟩
  | .refuse => session.outbox.head?.map fun issued => ⟨issued, none, session.events⟩
  | .command _ _ | .process => none

def policySession : Machine PolicySession SessionMove Outcome where
  initial := .initial
  step := PolicySession.step hub connId participantId
  event := PolicySession.settles hub connId

end Session

/-! ### Commands and the copy -/

/-- The commands that a client has issued, the latest first, and the copy that it keeps. -/
inductive Journal (hub : HubState) (participantId : String) :
    List Issued → Nat → SessionPolicyFrame → LocalSessionPolicyState → Prop where
  | start : Journal hub participantId [] 0 (sessionPolicyFrame none) {}
  | command {issued : List Issued} {batch : Nat} {base : SessionPolicyFrame}
      {policy : LocalSessionPolicyState} (command : PolicyCommand) (atMs : Nat) :
      Journal hub participantId issued batch base policy →
      Journal hub participantId
        (⟨command, policyUpdate hub participantId (policy.command command) atMs, batch, base⟩ ::
          issued) batch base (policy.command command)
  | read {issued : List Issued} {batch : Nat} {base : SessionPolicyFrame}
      {policy : LocalSessionPolicyState} (next : SessionPolicyFrame) :
      Journal hub participantId issued batch base policy →
      Journal hub participantId issued (batch + 1) next (readSessionPolicy next)

/-- A field of the policy is as a command of the batch has set it, or no command of the
batch names it and it is as in the policy that was read. -/
def Traced (batch : Nat) (base : SessionPolicyFrame) (issued : List Issued)
    (policy : LocalSessionPolicyState) : Prop :=
  ∀ field : PolicyField,
    (∃ other ∈ issued, other.batch = batch ∧ other.command.field = field ∧
      field.of other.update = field.value policy) ∨
    (∀ other ∈ issued, other.batch = batch → other.command.field ≠ field) ∧
      field.value policy = field.of base

namespace Journal

variable {hub : HubState} {participantId : String} {issued newer earlier : List Issued}
  {batch : Nat} {base : SessionPolicyFrame} {policy : LocalSessionPolicyState}
  {current other : Issued}

theorem recent (journal : Journal hub participantId issued batch base policy) :
    ∀ other ∈ issued, other.batch ≤ batch ∧ (other.batch = batch → other.base = base) := by
  induction journal with
  | start => exact List.forall_mem_nil _
  | command command atMs journal ih =>
      exact List.forall_mem_cons.mpr ⟨⟨Nat.le_refl _, fun _ => rfl⟩, ih⟩
  | read next journal ih =>
      intro other among
      have before := (ih other among).1
      exact ⟨Nat.le_succ_of_le before, fun same => by omega⟩

/-- The local copy is made of what was read last and of the commands since. -/
theorem traced (journal : Journal hub participantId issued batch base policy) :
    Traced batch base issued policy := by
  induction journal with
  | start => exact fun _ => .inr ⟨List.forall_mem_nil _, rfl⟩
  | @command issued batch base policy command atMs journal ih =>
      intro field
      by_cases named : command.field = field
      · exact .inl ⟨_, List.mem_cons_self, rfl, named, rfl⟩
      · have same := value_command named policy
        rcases ih field with ⟨other, among, member, names, set⟩ | ⟨none, kept⟩
        · exact .inl ⟨other, List.mem_cons_of_mem _ among, member, names, set.trans same.symm⟩
        · exact .inr ⟨List.forall_mem_cons.mpr ⟨fun _ => named, none⟩, same.trans kept⟩
  | read next journal ih =>
      refine fun field => .inr ⟨fun other among same => ?_, rfl⟩
      have before := (journal.recent other among).1
      omega

/-- So was the copy of every command when it was sent. -/
theorem traced_update (journal : Journal hub participantId issued batch base policy)
    (split : issued = newer ++ current :: earlier) :
    Traced current.batch current.base (current :: earlier) (readSessionPolicy current.update) := by
  induction journal generalizing newer with
  | start => simp at split
  | command command atMs journal ih =>
      cases newer with
      | nil =>
          obtain ⟨rfl, rfl⟩ := List.cons.inj split
          exact (journal.command command atMs).traced
      | cons head rest => exact ih (List.cons.inj split).2
  | read next journal ih => exact ih split

/-- The commands of a batch start from the same policy. -/
theorem same_base (journal : Journal hub participantId issued batch base policy)
    (among : current ∈ issued) (amongToo : other ∈ issued) (same : other.batch = current.batch) :
    other.base = current.base := by
  induction journal with
  | start => cases among
  | command command atMs journal ih =>
      rcases List.mem_cons.mp among with rfl | among
      · rcases List.mem_cons.mp amongToo with rfl | amongToo
        · rfl
        · exact (journal.recent other amongToo).2 same
      · rcases List.mem_cons.mp amongToo with rfl | amongToo
        · exact ((journal.recent current among).2 same.symm).symm
        · exact ih among amongToo
  | read next journal ih => exact ih among amongToo

end Journal

/-! ### Reachable sessions -/

structure PolicySession.Consistent (hub : HubState) (connId : ConnId) (participantId : String)
    (outcomes : List Outcome) (session : PolicySession) : Prop where
  run : Run hub session.events session.system
  journal : Journal hub participantId (session.outbox.reverse ++ outcomes.map (·.issued))
    session.batch session.base session.policy
  settled : ∀ outcome ∈ outcomes, ∀ event, outcome.accepted = some event →
    event :: outcome.past <:+ session.events ∧
      appliedPolicy connId event = some outcome.issued.update ∧ event.accepted hub ≠ none
  complete : ∀ event ∈ session.events, ∀ update, appliedPolicy connId event = some update →
    event.accepted hub ≠ none →
      ∃ outcome ∈ outcomes, outcome.accepted = some event ∧ outcome.issued.update = update

section Reachable

variable {hub : HubState} {connId : ConnId} {participantId : String} {outcomes : List Outcome}
  {session next : PolicySession}

/-- An event that applies no update of the client leaves its commands alone. -/
theorem PolicySession.Consistent.observed {event : Event} {system : System}
    (consistent : session.Consistent hub connId participantId outcomes)
    (run : Run hub (event :: session.events) system)
    (other : appliedPolicy connId event = none) (inbox : List KaigiFrame) :
    PolicySession.Consistent hub connId participantId outcomes
      { session with system := system, events := event :: session.events, inbox := inbox } where
  run := run
  journal := consistent.journal
  settled outcome among accepting accepted := by
    obtain ⟨happened, rest⟩ := consistent.settled outcome among accepting accepted
    exact ⟨happened.trans (List.suffix_cons event session.events), rest⟩
  complete past among update applies := by
    rcases List.mem_cons.mp among with rfl | among
    · rw [other] at applies
      cases applies
    · exact consistent.complete past among update applies

/-- An event that applies the next update settles its command. -/
theorem PolicySession.Consistent.applied {event : Event} {system : System} {issued : Issued}
    {rest : List Issued} (consistent : session.Consistent hub connId participantId outcomes)
    (run : Run hub (event :: session.events) system) (next : session.outbox = issued :: rest)
    (applies : appliedPolicy connId event = some issued.update) (inbox : List KaigiFrame) :
    PolicySession.Consistent hub connId participantId
      (⟨issued, if (event.accepted hub).isSome then some event else none, session.events⟩ ::
        outcomes)
      { session with
        system := system, events := event :: session.events, inbox := inbox, outbox := rest } where
  run := run
  journal := by
    have journal := consistent.journal
    rw [next, List.reverse_cons, List.append_assoc] at journal
    exact journal
  settled := by
    refine List.forall_mem_cons.mpr ⟨fun accepting accepted => ?_, fun outcome among accepting
      accepted => ?_⟩
    · split at accepted
      · next accepts =>
          cases accepted
          exact ⟨List.suffix_rfl, applies, Option.isSome_iff_ne_none.mp accepts⟩
      · cases accepted
    · obtain ⟨happened, settled⟩ := consistent.settled outcome among accepting accepted
      exact ⟨happened.trans (List.suffix_cons event session.events), settled⟩
  complete past among update applied accepts := by
    rcases List.mem_cons.mp among with rfl | among
    · rw [applies] at applied
      cases applied
      exact ⟨_, List.mem_cons_self, if_pos (Option.isSome_iff_ne_none.mpr accepts), rfl⟩
    · obtain ⟨outcome, member, settled⟩ := consistent.complete past among update applied accepts
      exact ⟨outcome, List.mem_cons_of_mem _ member, settled⟩

theorem PolicySession.Consistent.hubMove {move : Move}
    (consistent : session.Consistent hub connId participantId outcomes)
    (stepped : session.step hub connId participantId (.hub move) = some next) :
    next.Consistent hub connId participantId
      ((session.settles hub connId (.hub move)).toList ++ outcomes) := by
  obtain ⟨system, moved, stepped⟩ := Option.bind_eq_some_iff.mp stepped
  have run := consistent.run.step move moved
  simp only [PolicySession.settles]
  cases made : (hubMachine hub).event session.system move with
  | none =>
      rw [made] at stepped run
      cases stepped
      exact { consistent with run := run }
  | some event =>
      rw [made] at run
      simp only [made, PolicySession.observe] at stepped
      rw [Option.bind_some]
      cases applies : appliedPolicy connId event with
      | none =>
          simp only [applies] at stepped
          cases stepped
          exact consistent.observed run applies _
      | some update =>
          simp only [applies] at stepped
          cases waiting : session.outbox with
          | nil =>
              rw [waiting] at stepped
              cases stepped
          | cons issued rest =>
              simp only [waiting] at stepped
              split at stepped
              · next same =>
                  cases stepped
                  exact consistent.applied run waiting (same ▸ applies) _
              · cases stepped

/-- Every move keeps the session consistent. -/
theorem PolicySession.Consistent.step {move : SessionMove}
    (consistent : session.Consistent hub connId participantId outcomes)
    (stepped : session.step hub connId participantId move = some next) :
    next.Consistent hub connId participantId
      ((session.settles hub connId move).toList ++ outcomes) := by
  cases move with
  | hub move => exact consistent.hubMove stepped
  | refuse =>
      simp only [PolicySession.step] at stepped
      simp only [PolicySession.settles]
      cases waiting : session.outbox with
      | nil =>
          rw [waiting] at stepped
          cases stepped
      | cons issued rest =>
          rw [waiting] at stepped
          cases stepped
          have journal := consistent.journal
          rw [waiting, List.reverse_cons, List.append_assoc] at journal
          refine { consistent with journal := journal, settled := ?_, complete := ?_ }
          · refine List.forall_mem_cons.mpr ⟨fun event impossible => ?_, consistent.settled⟩
            cases impossible
          · intro past among update applies accepts
            obtain ⟨outcome, member, settled⟩ :=
              consistent.complete past among update applies accepts
            exact ⟨outcome, List.mem_cons_of_mem _ member, settled⟩
  | command input atMs =>
      simp only [PolicySession.step] at stepped
      split at stepped
      · next command _ =>
          cases stepped
          have journal := consistent.journal.command command atMs
          refine { consistent with journal := ?_ }
          rw [PolicySession.issue, List.reverse_append]
          exact journal
      · cases stepped
  | process =>
      simp only [PolicySession.step] at stepped
      cases arrived : session.inbox with
      | nil =>
          rw [arrived] at stepped
          cases stepped
      | cons frame rest =>
          rw [arrived] at stepped
          cases stepped
          cases frame with
          | sessionPolicy policy =>
              exact { consistent with journal := consistent.journal.read policy }
          | _ => exact { consistent with }

theorem reachable_consistent
    (run : (policySession hub connId participantId).Run outcomes session) :
    session.Consistent hub connId participantId outcomes := by
  refine Machine.Run.invariant (PolicySession.Consistent hub connId participantId) ?_ ?_ run
  · exact ⟨.initial, .start, List.forall_mem_nil _, List.forall_mem_nil _⟩
  · exact fun _ _ _ _ _ consistent stepped => consistent.step stepped

end Reachable

end Kaigi.Client
