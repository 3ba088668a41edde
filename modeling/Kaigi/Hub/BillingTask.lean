import Kaigi.Hub.HandlerOperations
import Kaigi.Hub.Trace

/-!
# The billing task

The periodic task of a connection charges it, and sends it nothing but an error and the
end of the connection. All other frames come from connection tasks.
-/

set_option autoImplicit false

namespace Kaigi.Hub

open Collections Wire Interleaving

/-- What the billing task performs. -/
def Operation.isCharge : Operation → Bool
  | .billing _ | .trySend _ (.binary (.error _)) | .trySend _ .close => true
  | _ => false

theorem performs_enforceBilling (hub : HubState) (connId : ConnId) :
    (enforceBilling hub connId).Performs fun op => op.isCharge = true := by
  refine performs_bind performs_nowMs fun now => performs_bind (performs_critical rfl)
    fun outcome => ?_
  cases outcome with
  | ended | goOn => trivial
  | disconnect message =>
      refine performs_bind ?_ fun _ => trivial
      unfold sendClosing encodable
      split
      · next encoded =>
          split at encoded
          · cases encoded
          · cases encoded
            exact performs_bind (performs_trySend rfl) fun _ =>
              performs_bind (performs_trySend rfl) fun _ => trivial
      · exact performs_bind (performs_trySend rfl) fun _ => trivial

/-- The handler of a billing task that is under way. -/
def BillingPhase.Charges : BillingPhase → Prop
  | .checking handler => handler.Performs fun op => op.isCharge = true
  | .sleeping | .returned => True

theorem BillingPhase.Charges.advanced {clock : Nat} {shared : HubRoom}
    {before after : BillingPhase} (charges : before.Charges)
    (advanced : System.billingAdvanced clock shared before = some after) :
    after.Charges ∧ ∀ op, System.billingOperation? before = some op → op.isCharge = true := by
  cases before with
  | sleeping | returned => cases advanced
  | checking handler =>
      cases handler with
      | done goesOn =>
          cases goesOn <;> cases advanced <;> exact ⟨trivial, fun _ none => by cases none⟩
      | fail =>
          cases advanced
          exact ⟨trivial, fun _ none => by cases none⟩
      | ask next =>
          cases advanced
          exact ⟨charges clock, fun _ none => by cases none⟩
      | atomic op next =>
          cases advanced
          refine ⟨charges.2 shared, fun other same => ?_⟩
          cases same
          exact charges.1

/-- The billing tasks have only charged so far. -/
structure Charging (history : List Event) (system : System) : Prop where
  phases : ∀ connId connection, system.connections connId = some connection →
    connection.billing.Charges
  events : ∀ event ∈ history, event.task = .billing → event.op.isCharge = true

/-- What a move does to the billing of a connection. -/
theorem System.moved_billing {hub : HubState} {system moved : System} {move : Move}
    (possible : system.moved hub move = some moved)
    (charges : ∀ connId connection, system.connections connId = some connection →
      connection.billing.Charges) {connId : ConnId} {connection : Connection}
    (found : moved.connections connId = some connection) : connection.billing.Charges := by
  have set : ∀ {target : ConnId} {updated : Connection},
      moved = system.setConnection target updated → updated.billing.Charges →
        connection.billing.Charges := by
    rintro target updated rfl charged
    by_cases own : connId = target
    · simp only [System.setConnection, if_pos own] at found
      cases found
      exact charged
    · simp only [System.setConnection, if_neg own] at found
      exact charges connId connection found
  cases System.moved_cases possible with
  | connected => exact set rfl trivial
  | received known | advanced known | writerEnded known =>
      have before := charges _ _ known
      exact set rfl before
  | @ticked target => exact set rfl (performs_enforceBilling hub target)
  | billed known advanced => exact set rfl ((charges _ _ known).advanced advanced).1
  | delivered | writerStopped | reordered => exact charges connId connection found

/-- An event of a billing task is a charge. -/
theorem System.event_isCharge {hub : HubState} {system moved : System} {move : Move}
    (possible : system.moved hub move = some moved)
    (charges : ∀ connId connection, system.connections connId = some connection →
      connection.billing.Charges) {event : Event} (made : system.event move = some event)
    (task : event.task = .billing) : event.op.isCharge = true := by
  cases System.moved_cases possible with
  | @received _ message =>
      cases message with
      | ping => cases made; cases task
      | _ => cases made
  | advanced =>
      obtain ⟨_, _, rfl⟩ := Option.map_eq_some_iff.mp made
      cases task
  | writerEnded | ticked => cases made
  | connected | delivered | writerStopped | reordered => cases made; cases task
  | billed known advanced =>
      obtain ⟨op, performed, rfl⟩ := Option.map_eq_some_iff.mp made
      rw [known, Option.bind_some] at performed
      exact ((charges _ _ known).advanced advanced).2 op performed

theorem Run.charging {hub : HubState} {history : List Event} {system : System}
    (run : Run hub history system) : Charging history system := by
  refine Machine.Run.invariant Charging ⟨?_, fun _ none => absurd none List.not_mem_nil⟩ ?_ run
  · intro connId connection none
    cases none
  · intro history system move next _ charging stepped
    obtain ⟨moved, possible, rfl⟩ := Option.map_eq_some_iff.mp stepped
    refine ⟨fun connId connection found => ?_, fun event happened task => ?_⟩
    · have known : moved.connections connId = some connection := by
        cases made : system.event move <;> simpa [made, System.perform] using found
      exact System.moved_billing possible charging.phases known
    · obtain now | before := List.mem_append.mp happened
      · exact System.event_isCharge possible charging.phases (Option.mem_toList.mp now) task
      · exact charging.events event before task

/-- Whatever is not an error is sent by a connection task. -/
theorem Run.frame_task {hub : HubState} {history : List Event} {system : System}
    (run : Run hub history system) {event : Event} (happened : event ∈ history)
    {frame : KaigiFrame} (carried : event.op.frame? = some frame)
    (other : ∀ notice, frame ≠ .error notice) : event.task = .connection := by
  obtain ⟨_, _, _, lawful⟩ := run.lawful happened
  obtain ⟨_, op⟩ | ⟨role, task, _⟩ | op | op | ⟨_, _, op⟩ := lawful.permitted
  · rw [op] at carried
    cases carried
  · cases role with
    | serving | leaving => exact task.symm
    | charging =>
        have charge := run.charging.events event happened task.symm
        unfold Operation.isCharge at charge
        split at charge
        · next op =>
            rw [op] at carried
            cases carried
        · next op =>
            rw [op] at carried
            cases carried
            exact absurd rfl (other _)
        · next op =>
            rw [op] at carried
            cases carried
        · cases charge
  all_goals
    rw [op] at carried
    cases carried

end Kaigi.Hub
