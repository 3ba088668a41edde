import Kaigi.Client.PolicySession

/-!
# What a policy command changes

An accepted update carries the whole copy of the client. It changes only what was
commanded if the copy was made of the policy in force and of accepted commands.
-/

set_option autoImplicit false

namespace Kaigi.Client

open Collections Wire Hub Interleaving

/-- The policy in force is that of an earlier moment or of an update accepted since. -/
theorem policy_since {hub : HubState} {since before : List Event}
    (trace : Trace hub (since ++ before))
    (stays : ∀ event ∈ since, event.before.room ≠ none → (event.after hub).room ≠ none) :
    sessionPolicyFrame (sharedAfter hub (since ++ before)).room =
        sessionPolicyFrame (sharedAfter hub before).room ∨
      ∃ event ∈ since, ∃ update, event.op = .sessionPolicy update ∧ event.accepted hub ≠ none ∧
        sessionPolicyFrame (sharedAfter hub (since ++ before)).room = update := by
  induction since with
  | nil => exact .inl rfl
  | cons event rest ih =>
      obtain ⟨persists, stays⟩ := List.forall_mem_cons.mp stays
      rw [List.cons_append] at trace ⊢
      cases trace with
      | step past same lawful =>
          have kept : sessionPolicyFrame (event.after hub).room =
                sessionPolicyFrame event.before.room ∨
              ∃ update, event.op = .sessionPolicy update ∧ event.accepted hub ≠ none ∧
                sessionPolicyFrame (event.after hub).room = update := by
            cases left : (event.after hub).room with
            | none =>
                cases found : event.before.room with
                | none => exact .inl rfl
                | some room => exact absurd left (persists (by simp [found]))
            | some after =>
                have opened : sessionPolicyFrame (some (event.before.opened hub)) =
                    sessionPolicyFrame event.before.room := by
                  cases found : event.before.room with
                  | none =>
                      rw [HubRoom.opened, found]
                      rfl
                  | some room => rw [HubRoom.opened_of_some found]
                obtain ⟨kept, _⟩ | ⟨update, updates, accepted, _, installed⟩ :=
                  (event.ledgerStep left).policy_cases
                · exact .inl (kept.trans opened)
                · exact .inr ⟨update, updates, accepted, installed⟩
          have now : (sharedAfter hub (event :: (rest ++ before))).room = (event.after hub).room :=
            rfl
          rw [now]
          rcases kept with unchanged | ⟨update, updates, accepted, installed⟩
          · rw [unchanged, same]
            obtain kept | ⟨earlier, among, found⟩ := ih past stays
            · exact .inl kept
            · exact .inr ⟨earlier, List.mem_cons_of_mem _ among, found⟩
          · exact .inr ⟨event, List.mem_cons_self, update, updates, accepted, installed⟩

/-- No command of the same batch was rejected before. Since some moment at which the policy
in force was the one that the client had read last, the room has stayed open and has only
accepted commands of the batch. -/
structure Outcome.Steady (hub : HubState) (outcome : Outcome) (earlier : List Outcome) : Prop where
  accepted : ∀ other ∈ earlier, other.issued.batch = outcome.issued.batch → other.accepted ≠ none
  current : ∃ since before, outcome.past = since ++ before ∧
    sessionPolicyFrame (sharedAfter hub before).room = outcome.issued.base ∧
    (∀ event ∈ since, event.before.room ≠ none → (event.after hub).room ≠ none) ∧
    ∀ event ∈ since, ∀ update, event.op = .sessionPolicy update → event.accepted hub ≠ none →
      ∃ other ∈ earlier, other.accepted = some event ∧
        other.issued.batch = outcome.issued.batch

/-- A field in which the update differs from the policy in force was set to its value by a
command of the batch that was not rejected. -/
def Outcome.NamesChanges (outcome : Outcome) (earlier : List Outcome) (event : Event) : Prop :=
  ∀ field : PolicyField,
    field.of outcome.issued.update ≠ field.of (sessionPolicyFrame event.before.room) →
      ∃ other ∈ outcome :: earlier, other.accepted ≠ none ∧
        other.issued.batch = outcome.issued.batch ∧ other.issued.command.field = field ∧
        field.of other.issued.update = field.of outcome.issued.update

section Scope

variable {hub : HubState} {connId : ConnId} {participantId : String}
  {outcomes newer earlier : List Outcome} {session : PolicySession} {outcome : Outcome}
  {event : Event}

theorem appliedPolicy_op {update : SessionPolicyFrame}
    (applies : appliedPolicy connId event = some update) : event.op = .sessionPolicy update := by
  unfold appliedPolicy at applies
  split at applies
  · next same =>
      split at applies
      · cases applies
        exact same
      · cases applies
  · cases applies

theorem PolicySession.Consistent.namesChanges
    (consistent : session.Consistent hub connId participantId outcomes)
    (split : outcomes = newer ++ outcome :: earlier) (accepted : outcome.accepted = some event)
    (steady : outcome.Steady hub earlier) : outcome.NamesChanges earlier event := by
  intro field differs
  have among : ∀ other ∈ earlier, other ∈ outcomes := fun other member =>
    split ▸ List.mem_append_right newer (List.mem_cons_of_mem _ member)
  have issuedSplit : session.outbox.reverse ++ outcomes.map (·.issued) =
      (session.outbox.reverse ++ newer.map (·.issued)) ++
        outcome.issued :: earlier.map (·.issued) := by
    rw [split, List.map_append, List.map_cons, List.append_assoc]
  have traced := consistent.journal.traced_update issuedSplit
  rcases traced field with ⟨command, issued, batch, names, set⟩ | ⟨unnamed, kept⟩
  · -- Commands of the batch have been settled in their order, and none was rejected.
    obtain ⟨other, member, rfl⟩ : ∃ other ∈ outcome :: earlier, other.issued = command :=
      List.mem_map.mp issued
    refine ⟨other, member, ?_, batch, names, set⟩
    rcases List.mem_cons.mp member with rfl | member
    · simp [accepted]
    · exact steady.accepted other member batch
  · refine absurd ?_ differs
    obtain ⟨since, before, past, start, stays, own⟩ := steady.current
    obtain ⟨happened, _, _⟩ := consistent.settled outcome
      (split ▸ List.mem_append_right newer List.mem_cons_self) event accepted
    obtain ⟨after, events⟩ := happened
    have trace := consistent.run.trace.1
    rw [← events] at trace
    obtain ⟨earlierTrace, same, _⟩ := trace.lawful
    rw [same]
    rw [past] at earlierTrace ⊢
    rcases policy_since earlierTrace stays with unchanged |
      ⟨other, during, update, op, accepts, now⟩
    · rw [unchanged, start]
      exact kept
    · obtain ⟨settled, member, found, batch⟩ := own other during update op accepts
      obtain ⟨_, applies, _⟩ := consistent.settled settled (among settled member) other found
      have updated : settled.issued.update = update := by
        have ops := (appliedPolicy_op applies).symm.trans op
        cases ops
        rfl
      obtain ⟨left, right, parts⟩ := List.append_of_mem member
      have settledSplit : session.outbox.reverse ++ outcomes.map (·.issued) =
          (session.outbox.reverse ++ newer.map (·.issued) ++
            outcome.issued :: left.map (·.issued)) ++
              settled.issued :: right.map (·.issued) := by
        rw [issuedSplit, parts]
        simp
      rw [now, ← updated]
      rcases consistent.journal.traced_update settledSplit field with
        ⟨command, issued, sameBatch, names, _⟩ | ⟨_, before⟩
      · refine absurd names (unnamed command (List.mem_cons_of_mem _ ?_) (sameBatch.trans batch))
        rw [parts, List.map_append, List.map_cons]
        exact List.mem_append_right _ issued
      · have bases : settled.issued.base = outcome.issued.base := by
          refine consistent.journal.same_base ?_ ?_ batch
          · rw [issuedSplit]
            exact List.mem_append_right _ List.mem_cons_self
          · rw [settledSplit]
            exact List.mem_append_right _ List.mem_cons_self
        exact kept.trans ((congrArg field.of bases).symm.trans before.symm)

/-- Every update of the client that the hub accepts belongs to one of its commands; if that
was steady, the update changes only what the commands since the last policy name. -/
theorem policyCommands_scope (run : (policySession hub connId participantId).Run outcomes session) :
    ∀ event ∈ session.events, ∀ update, appliedPolicy connId event = some update →
      event.accepted hub ≠ none →
        ∃ newer outcome earlier, outcomes = newer ++ outcome :: earlier ∧
          outcome.accepted = some event ∧ outcome.issued.update = update ∧
          (outcome.Steady hub earlier → outcome.NamesChanges earlier event) := by
  intro event happened update applies accepts
  have consistent := reachable_consistent run
  obtain ⟨outcome, among, accepted, same⟩ := consistent.complete event happened update applies
    accepts
  obtain ⟨newer, earlier, split⟩ := List.append_of_mem among
  exact ⟨newer, outcome, earlier, split, accepted, same, consistent.namesChanges split accepted⟩

end Scope

/-! ### Examples -/

def playedSession (hub : HubState) (connId : ConnId) (participantId : String)
    (moves : List SessionMove) : Option (List Outcome × PolicySession) :=
  (policySession hub connId participantId).execute moves [] .initial

/-- The update of a client whose copy is a new one, after the commands. -/
def updateAfter (participantId : String) (commands : List PolicyCommand) (atMs : Nat) :
    KaigiFrame :=
  .sessionPolicy (policyUpdate (scriptedHub []) participantId
    (commands.foldl LocalSessionPolicyState.command {}) atMs)

def scopeHub : HubState :=
  scriptedHub [helloAs "alice@sora", helloAs "bob@sora", updateAfter "alice@sora" [.lock true] 3,
    updateAfter "bob@sora" [.lock true] 3, updateAfter "bob@sora" [.lock true, .waiting true] 6]

def hubMoves (moves : List Move) : List SessionMove :=
  moves.map .hub

/-- Alice hosts, reads what she is sent, and locks the room. -/
def scopeScript : List SessionMove :=
  hubMoves ([.connect 1 0] ++ sendsFrame 1 0 1 25) ++ List.replicate 6 .process ++
    [.command "/lock on" 3] ++ hubMoves (sendsFrame 1 2 3 12)

/-- A script whose last settled command is accepted, and passes the check, is a run. -/
theorem playedSession_run (hub : HubState) (connId : ConnId) (participantId : String)
    (moves : List SessionMove) (check : Outcome → List Outcome → Event → Bool)
    (plays : (playedSession hub connId participantId moves).any (fun result =>
      result.1.head?.any fun outcome =>
        outcome.accepted.any (check outcome result.1.tail)) = true) :
    ∃ outcome earlier session event,
      (policySession hub connId participantId).Run (outcome :: earlier) session ∧
        outcome.accepted = some event ∧ check outcome earlier event = true := by
  obtain ⟨result, played, checks⟩ := (Option.any_eq_true ..).mp plays
  obtain ⟨outcome, last, checks⟩ := (Option.any_eq_true ..).mp checks
  obtain ⟨event, accepted, checks⟩ := (Option.any_eq_true ..).mp checks
  refine ⟨outcome, result.1.tail, result.2, event, ?_, accepted, checks⟩
  rw [List.cons_head?_tail last]
  exact .execute .initial played

/-- The room has stayed open since the policy that was read, and no update was accepted. -/
def untouchedSince (hub : HubState) (count : Nat) (outcome : Outcome) : Bool :=
  decide (sessionPolicyFrame (sharedAfter hub (outcome.past.drop count)).room =
    outcome.issued.base) &&
  (outcome.past.take count).all fun event =>
    (event.before.room.isNone || (event.after hub).room.isSome) && (event.accepted hub).isNone

theorem steady_of_untouched {hub : HubState} {count : Nat} {outcome : Outcome}
    (untouched : untouchedSince hub count outcome = true) : outcome.Steady hub [] where
  accepted := List.forall_mem_nil _
  current := by
    simp only [untouchedSince, Bool.and_eq_true, decide_eq_true_eq, List.all_eq_true,
      Bool.or_eq_true, Option.isNone_iff_eq_none] at untouched
    obtain ⟨start, quiet⟩ := untouched
    refine ⟨outcome.past.take count, outcome.past.drop count, (List.take_append_drop _ _).symm,
      start, fun event among opened => ?_, fun event among update _ accepted => ?_⟩
    · exact Option.isSome_iff_ne_none.mp ((quiet event among).1.resolve_left opened)
    · exact absurd (quiet event among).2 accepted

theorem policyCommands_scope_script :
    ∃ outcome session event, (policySession scopeHub 1 "alice@sora").Run [outcome] session ∧
      outcome.accepted = some event ∧
      PolicyField.roomLock.of outcome.issued.update ≠
        PolicyField.roomLock.of (sessionPolicyFrame event.before.room) ∧
      outcome.NamesChanges [] event := by
  obtain ⟨outcome, earlier, session, event, run, accepted, checks⟩ :=
    playedSession_run scopeHub 1 "alice@sora" scopeScript (fun outcome earlier event =>
      earlier.isEmpty && untouchedSince scopeHub 2 outcome &&
        decide (PolicyField.roomLock.of outcome.issued.update ≠
          PolicyField.roomLock.of (sessionPolicyFrame event.before.room))) (by decide +kernel)
  simp only [Bool.and_eq_true, List.isEmpty_iff, decide_eq_true_eq] at checks
  obtain ⟨⟨rfl, untouched⟩, changes⟩ := checks
  obtain ⟨happened, applies, accepts⟩ :=
    (reachable_consistent run).settled outcome List.mem_cons_self event accepted
  obtain ⟨newer, settled, earlier, split, _, _, scope⟩ := policyCommands_scope run event
    (happened.subset List.mem_cons_self) _ applies accepts
  obtain ⟨rfl, rfl, rfl⟩ : newer = [] ∧ settled = outcome ∧ earlier = [] := by
    cases newer with
    | nil =>
        obtain ⟨same, none⟩ := List.cons.inj split
        exact ⟨rfl, same.symm, none.symm⟩
    | cons => simp at split
  exact ⟨_, session, event, run, accepted, changes, scope (steady_of_untouched untouched)⟩

/-- Bob locks the room, which only the host may do; then alice leaves, and bob, the host
now, turns the waiting room on. -/
def rejectedScript : List SessionMove :=
  hubMoves ([.connect 1 0, .connect 2 0] ++ sendsFrame 1 0 1 28 ++ sendsFrame 2 1 2 30) ++
    List.replicate 9 .process ++ [.command "/lock on" 3] ++ hubMoves (sendsFrame 2 3 3 7) ++
      hubMoves (closes 1 4 17) ++ [.command "/waiting on" 6] ++ hubMoves (sendsFrame 2 4 6 12)

/-- The lock that was rejected comes with the waiting room. -/
theorem rejectedCommand_rides :
    ∃ outcome rejected session event,
      (policySession scopeHub 2 "bob@sora").Run [outcome, rejected] session ∧
        outcome.accepted = some event ∧ rejected.accepted = none ∧
        rejected.issued.command.field = .roomLock ∧
        outcome.issued.command.field = .waitingRoomEnabled ∧
        PolicyField.roomLock.of outcome.issued.update ≠
          PolicyField.roomLock.of (sessionPolicyFrame event.before.room) ∧
        ¬ outcome.NamesChanges [rejected] event := by
  obtain ⟨outcome, earlier, session, event, run, accepted, checks⟩ :=
    playedSession_run scopeHub 2 "bob@sora" rejectedScript (fun outcome earlier event =>
      earlier.tail.isEmpty &&
        earlier.head?.any (fun (rejected : Outcome) => rejected.accepted.isNone &&
          decide (rejected.issued.command.field = PolicyField.roomLock)) &&
        decide (outcome.issued.command.field = PolicyField.waitingRoomEnabled) &&
        decide (PolicyField.roomLock.of outcome.issued.update ≠
          PolicyField.roomLock.of (sessionPolicyFrame event.before.room))) (by decide +kernel)
  simp only [Bool.and_eq_true, List.isEmpty_iff, Option.any_eq_true, Option.isNone_iff_eq_none,
    decide_eq_true_eq] at checks
  obtain ⟨⟨⟨none, rejected, first, refused, locks⟩, waits⟩, changes⟩ := checks
  obtain rfl : earlier = [rejected] := by rw [← List.cons_head?_tail first, none]
  refine ⟨outcome, rejected, session, event, run, accepted, refused, locks, waits, changes,
    fun scope => ?_⟩
  obtain ⟨other, among, settled, _, names, _⟩ := scope .roomLock changes
  simp only [List.mem_cons, List.not_mem_nil, or_false] at among
  rcases among with rfl | rfl
  · rw [waits] at names
    cases names
  · exact settled refused

end Kaigi.Client
