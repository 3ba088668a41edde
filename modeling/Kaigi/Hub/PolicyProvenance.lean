import Kaigi.Hub.ActionClocks

/-!
# The provenance of the session policy

The room keeps the policy in ten fields and puts them together again for a relay.
They only ever change all at once, when the host gets an update accepted; so what is
relayed is the last accepted update with its signature.
-/

set_option autoImplicit false

namespace Kaigi.Hub

open Collections Wire Interleaving

/-- A step either installs an accepted update, or keeps the policy and is no accepted
update. -/
theorem LedgerStep.policy_cases {hub : HubState} {room after : RoomState} {connId : ConnId}
    {op : Operation} {accepted : Option SignedAction}
    (step : LedgerStep hub room connId op accepted after) :
    (sessionPolicyFrame (some after) = sessionPolicyFrame (some room) ∧
      ∀ update, op = .sessionPolicy update → accepted = none) ∨
    ∃ update, op = .sessionPolicy update ∧ accepted ≠ none ∧
      MayChangePolicy hub room connId update ∧ sessionPolicyFrame (some after) = update := by
  cases step with
  | kept _ same => exact .inl ⟨congrArg Ledger.policy same, fun _ _ => rfl⟩
  | policy _ _ may same => exact .inr ⟨_, rfl, nofun, may, congrArg Ledger.policy same⟩
  | joined same | left same | capable same => exact .inl ⟨congrArg Ledger.policy same, nofun⟩
  | roleGrant _ _ same | roleRevoke _ _ same => exact .inl ⟨congrArg Ledger.policy same, nofun⟩
  | keyEpoch _ _ _ _ same => exact .inl ⟨congrArg Ledger.policy same, nofun⟩
  | ackEpoch _ _ _ _ _ _ same => exact .inl ⟨congrArg Ledger.policy same, nofun⟩
  | moderated _ _ _ _ same => exact .inl ⟨congrArg Ledger.policy same, nofun⟩
  | admitted _ _ _ same => exact .inl ⟨congrArg Ledger.policy same, nofun⟩
  | denied _ _ _ _ _ same => exact .inl ⟨congrArg Ledger.policy same, nofun⟩

/-- `event` is the last accepted update, and the room persists since. -/
structure LastPolicy (hub : HubState) (newer : List Event) (event : Event) (older : List Event)
    (update : SessionPolicyFrame) : Prop where
  updates : event.op = .sessionPolicy update
  accepted : event.accepted hub ≠ none
  may : ∀ room, event.before.room = some room → MayChangePolicy hub room event.connId update
  persists : Persists hub newer (event :: older)
  last : ∀ later ∈ newer, ∀ other, later.op = .sessionPolicy other → later.accepted hub = none

theorem Persists.cons {hub : HubState} {later earlier : List Event} {event : Event}
    {after : RoomState} (persists : Persists hub later earlier)
    (left : (event.after hub).room = some after) : Persists hub (event :: later) earlier := by
  intro rest front
  obtain rfl | front := List.suffix_cons_iff.mp front
  · exact Option.ne_none_iff_exists'.mpr ⟨after, left⟩
  · exact persists rest front

/-- A room with a policy epoch shows the last accepted update. -/
theorem Trace.lastPolicy {hub : HubState} {history : List Event} (trace : Trace hub history)
    (updated : 0 < (roomAfter hub history).policyEpoch) :
    ∃ newer event older, history = newer ++ event :: older ∧
      LastPolicy hub newer event older (sessionPolicyFrame (some (roomAfter hub history))) := by
  refine Trace.room (fun past room => 0 < room.policyEpoch → ∃ newer event older,
    past = newer ++ event :: older ∧
      LastPolicy hub newer event older (sessionPolicyFrame (some room))) ?_ ?_ trace updated
  · exact fun _ impossible => absurd impossible (Nat.lt_irrefl 0)
  · intro earlier event after past lawful same ih left updated
    have step := Event.ledgerStep left
    obtain ⟨kept, other⟩ | ⟨update, updates, accepted, may, installed⟩ := step.policy_cases
    · have epochs : after.policyEpoch = (event.before.opened hub).policyEpoch :=
        congrArg SessionPolicyFrame.policyEpoch kept
      obtain ⟨newer, last, older, rfl, shown⟩ := ih (epochs ▸ updated)
      rw [kept]
      exact ⟨event :: newer, last, older, rfl,
        { shown with
          persists := shown.persists.cons left
          last := List.forall_mem_cons.mpr ⟨other, shown.last⟩ }⟩
    · rw [installed]
      refine ⟨[], event, earlier, rfl, updates, accepted, fun room found => ?_, ?_,
        List.forall_mem_nil _⟩
      · rw [HubRoom.opened_of_some found] at may
        exact may
      · intro rest front
        rw [List.suffix_nil.mp front]
        exact Option.ne_none_iff_exists'.mpr ⟨after, left⟩

/-- The policy changes only by an accepted update of the host, and what is relayed is
the last accepted update, whose signature is valid. -/
theorem sessionPolicy_provenance {hub : HubState} {history : List Event} {system : System}
    (run : Run hub history system) :
    (∀ event ∈ history, ∀ room after, event.before.room = some room →
      (event.after hub).room = some after →
      sessionPolicyFrame (some after) ≠ sessionPolicyFrame (some room) →
        ∃ update, event.op = .sessionPolicy update ∧ event.accepted hub ≠ none ∧
          MayChangePolicy hub room event.connId update ∧
          sessionPolicyFrame (some after) = update) ∧
    ∀ room, system.shared.room = some room → 0 < room.policyEpoch →
      sessionPolicySignatureIsValid hub (sessionPolicyFrame (some room)) = true ∧
      ∃ newer event older, history = newer ++ event :: older ∧
        LastPolicy hub newer event older (sessionPolicyFrame (some room)) := by
  refine ⟨fun event _ room after found left changed => ?_, fun room found updated => ?_⟩
  · have step := Event.ledgerStep left
    rw [HubRoom.opened_of_some found] at step
    exact step.policy_cases.resolve_left fun kept => changed kept.1
  · obtain ⟨trace, shared⟩ := run.trace
    rw [← roomAfter_eq run found] at updated ⊢
    obtain ⟨newer, event, older, split, last⟩ := trace.lastPolicy updated
    refine ⟨?_, newer, event, older, split, last⟩
    obtain ⟨action, accepts⟩ := Option.ne_none_iff_exists'.mp last.accepted
    obtain ⟨before, _, was, _⟩ := Event.accepted_room accepts
    exact (last.may before was).signed

def provenanceHub : HubState :=
  scriptedHub [helloAs "alice@sora", waitingRoomPolicy]

/-- Alice hosts and turns the waiting room on. -/
def provenanceScript : List Move :=
  [.connect 1 0] ++ sendsFrame 1 0 1 25 ++ sendsFrame 1 1 2 12

theorem sessionPolicy_provenance_script :
    ∃ history system room, Run provenanceHub history system ∧
      system.shared.room = some room ∧ room.policyEpoch = 1 ∧
        sessionPolicySignatureIsValid provenanceHub (sessionPolicyFrame (some room)) = true ∧
        ∃ newer event older, history = newer ++ event :: older ∧
          LastPolicy provenanceHub newer event older (sessionPolicyFrame (some room)) := by
  obtain ⟨history, system, room, run, found, checks⟩ := Run.of_played_room provenanceHub
    provenanceScript (fun _ room => room.policyEpoch == 1) (by decide +kernel)
  have updated : room.policyEpoch = 1 := beq_iff_eq.mp checks
  obtain ⟨signed, last⟩ := (sessionPolicy_provenance run).2 room found (updated ▸ Nat.one_pos)
  exact ⟨history, system, room, run, found, updated, signed, last⟩

end Kaigi.Hub
