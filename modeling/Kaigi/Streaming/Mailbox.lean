import Mathlib.Data.List.Basic

/-!
# Mailboxes

A bounded queue between many writers and one reader. What the reader has taken, followed by what
still waits, is what the queue has accepted, in the order of acceptance.
-/

set_option autoImplicit false

namespace Kaigi.Streaming

variable {Message : Type}

/-- What a queue has accepted, what was taken from it, and what waits in it. -/
structure Mailbox (Message : Type) where
  accepted : List Message
  taken : List Message
  waiting : List Message

/-- Nothing is lost, repeated or reordered, and no more waits than there is space for. -/
structure Mailbox.InOrder (capacity : Nat) (mailbox : Mailbox Message) : Prop where
  conserved : mailbox.taken ++ mailbox.waiting = mailbox.accepted
  bounded : mailbox.waiting.length ≤ capacity

def Mailbox.accept (mailbox : Mailbox Message) (message : Message) : Mailbox Message :=
  { mailbox with
    accepted := mailbox.accepted ++ [message]
    waiting := mailbox.waiting ++ [message] }

/-- The reader takes the first message, if one waits. -/
def Mailbox.take (mailbox : Mailbox Message) : Mailbox Message :=
  { mailbox with
    taken := mailbox.taken ++ mailbox.waiting.head?.toList
    waiting := mailbox.waiting.tail }

/-- What may happen to a mailbox: `closed` says that it accepts nothing. -/
inductive Mailbox.Step (capacity : Nat) (closed : Prop) (mailbox : Mailbox Message) :
    Mailbox Message → Prop where
  | still : Step capacity closed mailbox mailbox
  | accepts (message : Message) : ¬ closed → mailbox.waiting.length < capacity →
      Step capacity closed mailbox (mailbox.accept message)
  | takes : Step capacity closed mailbox mailbox.take

namespace Mailbox.InOrder

variable {capacity : Nat} {mailbox : Mailbox Message}

theorem empty : Mailbox.InOrder capacity (⟨[], [], []⟩ : Mailbox Message) :=
  ⟨rfl, Nat.zero_le capacity⟩

theorem accept (order : mailbox.InOrder capacity) (message : Message)
    (space : mailbox.waiting.length < capacity) : (mailbox.accept message).InOrder capacity := by
  constructor
  · simp only [Mailbox.accept, ← List.append_assoc, order.conserved]
  · simpa [Mailbox.accept] using Nat.succ_le_of_lt space

theorem take (order : mailbox.InOrder capacity) : mailbox.take.InOrder capacity := by
  obtain ⟨accepted, taken, waiting⟩ := mailbox
  have conserved := order.conserved
  have bounded := order.bounded
  cases waiting with
  | nil => exact ⟨by simpa [Mailbox.take] using conserved, Nat.zero_le capacity⟩
  | cons first rest =>
      constructor
      · simpa [Mailbox.take] using conserved
      · exact Nat.le_trans (Nat.le_succ _) bounded

theorem step {closed : Prop} {moved : Mailbox Message} (order : mailbox.InOrder capacity)
    (step : mailbox.Step capacity closed moved) : moved.InOrder capacity := by
  cases step with
  | still => exact order
  | accepts message _ space => exact order.accept message space
  | takes => exact order.take

end Mailbox.InOrder

/-- An empty closed mailbox stays empty. -/
theorem Mailbox.Step.empty {capacity : Nat} {closed : Prop} {mailbox moved : Mailbox Message}
    (step : mailbox.Step capacity closed moved) (shut : closed) (nothing : mailbox = ⟨[], [], []⟩) :
    moved = ⟨[], [], []⟩ := by
  subst nothing
  cases step with
  | still | takes => rfl
  | accepts _ opened => exact absurd shut opened

end Kaigi.Streaming
