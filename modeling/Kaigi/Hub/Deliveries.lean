import Kaigi.Hub.Trace

/-!
# Messages in the outgoing channels

A channel is opened once, and what it has taken stays in it until the writer takes it out.
So a close message that was taken is under way to the end of the run.
-/

set_option autoImplicit false

namespace Kaigi.Hub

open Collections Wire Interleaving

/-- What an operation of `actor` does to the channel of a connection. -/
inductive ChannelStep (actor connId : ConnId) (before : Channel) : Operation → Channel → Prop where
  | still {op : Operation} : ChannelStep actor connId before op before
  | opened {connectedAtMs : Nat} : connId = actor →
      ChannelStep actor connId before (.connect connectedAtMs) ⟨[], false⟩
  | sent {message : Message} :
      ChannelStep actor connId before (.trySend connId message) (before.trySend message)
  | taken : connId = actor →
      ChannelStep actor connId before .takeMessage { before with queue := before.queue.tail }
  | closed : connId = actor →
      ChannelStep actor connId before .closeChannel { before with closed := true }

theorem channels_apply (hub : HubState) (actor connId : ConnId) (op : Operation)
    (state : HubRoom) : ChannelStep actor connId (state.channels connId) op
      ((op.apply hub actor state).channels connId) := by
  cases op with
  | connect connectedAtMs =>
      by_cases own : connId = actor
      · subst own
        simpa [Operation.apply, HubRoom.updateChannel] using .opened rfl
      · simpa [Operation.apply, HubRoom.updateChannel, own] using .still
  | trySend target message =>
      by_cases own : connId = target
      · subst own
        simpa [Operation.apply, HubRoom.updateChannel] using .sent
      · simpa [Operation.apply, HubRoom.updateChannel, own] using .still
  | takeMessage =>
      by_cases own : connId = actor
      · subst own
        simpa [Operation.apply, HubRoom.updateChannel] using .taken rfl
      · simpa [Operation.apply, HubRoom.updateChannel, own] using .still
  | closeChannel =>
      by_cases own : connId = actor
      · subst own
        simpa [Operation.apply, HubRoom.updateChannel] using .closed rfl
      · simpa [Operation.apply, HubRoom.updateChannel, own] using .still
  | _ => exact .still

theorem Channel.trySend_closed (channel : Channel) (message : Message) :
    (channel.trySend message).closed = channel.closed := by
  unfold Channel.trySend
  split <;> rfl

theorem Channel.mem_trySend {channel : Channel} {message other : Message}
    (member : other ∈ channel.queue) : other ∈ (channel.trySend message).queue := by
  unfold Channel.trySend
  split
  · exact List.mem_append_left _ member
  · exact member

theorem Channel.trySend_mem {channel : Channel} {message : Message}
    (accepts : channel.accepts = true) : message ∈ (channel.trySend message).queue := by
  rw [Channel.trySend, if_pos accepts]
  exact List.mem_append_right _ (List.mem_singleton_self message)

/-- Nothing is accepted for a connection that has not connected. -/
theorem Trace.closed {hub : HubState} {history : List Event} {connId : ConnId}
    (trace : Trace hub history) (absent : ¬ Connected history connId) :
    ((sharedAfter hub history).channels connId).closed = true := by
  induction trace with
  | start => rfl
  | @step earlier event past before lawful ih =>
      have was : (event.before.channels connId).closed = true := by
        rw [before]
        refine ih fun connected => absent ?_
        obtain ⟨connect, member, opens⟩ := connected
        exact ⟨connect, List.mem_cons_of_mem _ member, opens⟩
      have step := channels_apply hub event.connId connId event.op event.before
      change ((event.op.apply hub event.connId event.before).channels connId).closed = true
      generalize operation : event.op = op at step ⊢
      generalize (op.apply hub event.connId event.before).channels connId = after at step ⊢
      cases step with
      | still | taken => exact was
      | @opened connectedAtMs own =>
          exact absurd ⟨event, List.mem_cons_self, own.symm, connectedAtMs, operation⟩ absent
      | sent =>
          rw [Channel.trySend_closed]
          exact was
      | closed => rfl

def Message.isClose : Message → Bool
  | .close => true
  | .binary _ | .pong _ => false

/-- A close message waits in the channel, or the writer has taken one out. -/
def CloseUnderWay (history : List Event) (state : HubRoom) (connId : ConnId) : Prop :=
  .close ∈ (state.channels connId).queue ∨
    ∃ event ∈ history, event.connId = connId ∧ event.op = .takeMessage ∧
      (event.before.channels connId).queue.head? = some .close

/-- The event puts a close message into the channel of the connection. -/
def Event.Closes (event : Event) (connId : ConnId) : Prop :=
  event.op = .trySend connId .close ∧ (event.before.channels connId).accepts = true

theorem Trace.close_underWay {hub : HubState} {history : List Event} {connId : ConnId}
    {close : Event} (trace : Trace hub history) (member : close ∈ history)
    (closes : close.Closes connId) :
    CloseUnderWay history (sharedAfter hub history) connId ∧ Connected history connId := by
  induction trace with
  | start => cases member
  | @step earlier event past before lawful ih =>
      have connected_cons : Connected earlier connId → Connected (event :: earlier) connId := by
        rintro ⟨connect, happened, opens⟩
        exact ⟨connect, List.mem_cons_of_mem _ happened, opens⟩
      have step := channels_apply hub event.connId connId event.op event.before
      change CloseUnderWay (event :: earlier)
        (event.op.apply hub event.connId event.before) connId ∧ _
      obtain rfl | before' := List.mem_cons.mp member
      · have connected : Connected earlier connId := by
          by_contra absent
          have shut := past.closed absent
          rw [← before] at shut
          have accepts := closes.2
          simp [Channel.accepts, shut] at accepts
        refine ⟨.inl ?_, connected_cons connected⟩
        rw [closes.1]
        simp only [Operation.apply, HubRoom.updateChannel, if_pos]
        exact Channel.trySend_mem closes.2
      · obtain ⟨underWay, connected⟩ := ih before'
        refine ⟨?_, connected_cons connected⟩
        rw [← before] at underWay
        obtain waiting | ⟨taken, happened, out⟩ := underWay
        · unfold CloseUnderWay
          generalize operation : event.op = op at step ⊢
          generalize (op.apply hub event.connId event.before).channels connId = after at step ⊢
          cases step with
          | still | closed => exact .inl waiting
          | opened own =>
              obtain ⟨unconnected, _⟩ := lawful.once _ operation
              exact absurd (own ▸ connected) unconnected
          | sent => exact .inl (Channel.mem_trySend waiting)
          | taken own =>
              cases queued : (event.before.channels connId).queue with
              | nil =>
                  rw [queued] at waiting
                  cases waiting
              | cons first rest =>
                  rw [queued] at waiting
                  rcases List.mem_cons.mp waiting with rfl | behind
                  · exact .inr ⟨event, List.mem_cons_self, own.symm, operation, by rw [queued]; rfl⟩
                  · exact .inl behind
        · exact .inr ⟨taken, List.mem_cons_of_mem _ happened, out⟩

end Kaigi.Hub
