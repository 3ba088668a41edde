import Kaigi.Hub.Deliveries
import Kaigi.Streaming.Mailbox

/-!
# The order of outgoing messages

Any task may send to a connection, and its writer empties the channel. The writer gets exactly
the messages that the channel accepted, in the order in which it accepted them.
-/

set_option autoImplicit false

namespace Kaigi.Hub

open Collections Wire Interleaving Streaming

/-- The message that the event puts into the channel of the connection. -/
def Event.sends (event : Event) (connId : ConnId) : List Message :=
  match event.op with
  | .trySend target message =>
      if target = connId ∧ (event.before.channels connId).accepts then [message] else []
  | _ => []

/-- The message that the writer of the connection takes. -/
def Event.takes (event : Event) (connId : ConnId) : List Message :=
  match event.op with
  | .takeMessage =>
      if event.connId = connId then (event.before.channels connId).queue.head?.toList else []
  | _ => []

/-- The messages accepted for the connection, the earliest first. -/
def acceptedFor (connId : ConnId) : List Event → List Message
  | [] => []
  | event :: earlier => acceptedFor connId earlier ++ event.sends connId

/-- The messages that the writer of the connection took, the earliest first. -/
def writtenTo (connId : ConnId) : List Event → List Message
  | [] => []
  | event :: earlier => writtenTo connId earlier ++ event.takes connId

/-- The channel of a connection as a mailbox. -/
def mailboxOf (hub : HubState) (connId : ConnId) (history : List Event) : Mailbox Message where
  accepted := acceptedFor connId history
  taken := writtenTo connId history
  waiting := ((sharedAfter hub history).channels connId).queue

section Steps

variable {hub : HubState} {earlier history : List Event} {event : Event} {connId : ConnId}

/-- What an event does to the channel of a connection, unless it opens it. -/
theorem Event.mailboxStep (accepted taken : List Message)
    (opened : ∀ connectedAtMs, event.op = .connect connectedAtMs → event.connId ≠ connId) :
    Mailbox.Step channelCapacity ((event.before.channels connId).closed = true)
      ⟨accepted, taken, (event.before.channels connId).queue⟩
      ⟨accepted ++ event.sends connId, taken ++ event.takes connId,
        ((event.after hub).channels connId).queue⟩ := by
  obtain ⟨actor, task, op, before⟩ := event
  dsimp only at opened ⊢
  have still : Event.sends ⟨actor, task, op, before⟩ connId = [] →
      Event.takes ⟨actor, task, op, before⟩ connId = [] →
      ((op.apply hub actor before).channels connId).queue = (before.channels connId).queue →
      Mailbox.Step channelCapacity ((before.channels connId).closed = true)
        ⟨accepted, taken, (before.channels connId).queue⟩
        ⟨accepted ++ Event.sends ⟨actor, task, op, before⟩ connId,
          taken ++ Event.takes ⟨actor, task, op, before⟩ connId,
          ((Event.after hub ⟨actor, task, op, before⟩).channels connId).queue⟩ := by
    intro unsent untaken queue
    rw [unsent, untaken, List.append_nil, List.append_nil, Event.after, queue]
    exact .still
  cases op with
  | connect connectedAtMs =>
      refine still rfl rfl ?_
      simp [Operation.apply, HubRoom.updateChannel, (opened connectedAtMs rfl).symm]
  | closeChannel =>
      refine still rfl rfl ?_
      simp only [Operation.apply, HubRoom.updateChannel]
      split <;> rfl
  | takeMessage =>
      by_cases own : actor = connId
      · subst own
        simpa [Event.sends, Event.takes, Event.after, Operation.apply, HubRoom.updateChannel,
          Mailbox.take] using Mailbox.Step.takes
      · refine still rfl (by simp [Event.takes, own]) ?_
        simp [Operation.apply, HubRoom.updateChannel, Ne.symm own]
  | trySend target message =>
      by_cases own : target = connId
      · subst own
        cases accepts : (before.channels target).accepts with
        | false =>
            refine still (by simp [Event.sends, accepts]) rfl ?_
            simp [Operation.apply, HubRoom.updateChannel, Channel.trySend, accepts]
        | true =>
            have space := accepts
            simp only [Channel.accepts, Bool.and_eq_true, Bool.not_eq_true', decide_eq_true_eq]
              at space
            simpa [Event.sends, Event.takes, Event.after, Operation.apply, HubRoom.updateChannel,
              Channel.trySend, accepts, Mailbox.accept] using
                Mailbox.Step.accepts message (by simp [space.1]) space.2
      · refine still (by simp [Event.sends, own]) rfl ?_
        simp [Operation.apply, HubRoom.updateChannel, Ne.symm own]
  | _ => exact still rfl rfl rfl

theorem mailboxOf_step (same : event.before = sharedAfter hub earlier)
    (opened : ∀ connectedAtMs, event.op = .connect connectedAtMs → event.connId ≠ connId) :
    (mailboxOf hub connId earlier).Step channelCapacity
      (((sharedAfter hub earlier).channels connId).closed = true)
      (mailboxOf hub connId (event :: earlier)) := by
  unfold mailboxOf
  rw [← same]
  exact event.mailboxStep (acceptedFor connId earlier) (writtenTo connId earlier) opened

/-- Before the connection is there, nothing is sent to it. -/
theorem Trace.nothing_accepted (trace : Trace hub history) (absent : ¬ Connected history connId) :
    mailboxOf hub connId history = ⟨[], [], []⟩ := by
  induction trace with
  | start => rfl
  | @step earlier event past same lawful ih =>
      have before : ¬ Connected earlier connId := by
        rintro ⟨connect, member, opens⟩
        exact absent ⟨connect, List.mem_cons_of_mem _ member, opens⟩
      have other : ∀ connectedAtMs, event.op = .connect connectedAtMs → event.connId ≠ connId :=
        fun connectedAtMs connects own =>
          absent ⟨event, List.mem_cons_self, own, connectedAtMs, connects⟩
      exact (mailboxOf_step same other).empty (past.closed before) (ih before)

/-- The writer has taken the messages that the channel accepted, from whichever task, each once
and in the order of acceptance; what it has not taken waits, at most a channelful. -/
theorem Trace.inOrder (trace : Trace hub history) (connId : ConnId) :
    (mailboxOf hub connId history).InOrder channelCapacity := by
  induction trace with
  | start => exact .empty
  | @step earlier event past same lawful ih =>
      by_cases opens : (∃ connectedAtMs, event.op = .connect connectedAtMs) ∧ event.connId = connId
      · obtain ⟨⟨connectedAtMs, connects⟩, own⟩ := opens
        have nothing := past.nothing_accepted (own ▸ (lawful.once connectedAtMs connects).1)
        have opened : mailboxOf hub connId (event :: earlier) = ⟨[], [], []⟩ := by
          simp only [mailboxOf, Mailbox.mk.injEq] at nothing
          simp [mailboxOf, acceptedFor, writtenTo, Event.sends, Event.takes, connects, nothing,
            sharedAfter, Event.after, Operation.apply, HubRoom.updateChannel, own]
        rw [opened]
        exact .empty
      · exact ih.step (mailboxOf_step same fun connectedAtMs connects own =>
          opens ⟨⟨connectedAtMs, connects⟩, own⟩)

end Steps

end Kaigi.Hub
