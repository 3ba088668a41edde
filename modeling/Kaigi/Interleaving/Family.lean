import Kaigi.Interleaving.Machine

/-!
# Families of machines

A machine may host a family of machines of one kind that never look at each other. Its runs are
then runs of every member, seen through the events of that member.
-/

set_option autoImplicit false

namespace Kaigi.Interleaving

variable {Outer OuterMove Index State Move Event : Type}

/-- The events of one member of a family. -/
def memberHistory [DecidableEq Index] (index : Index) (history : List (Index × Event)) :
    List Event :=
  (history.filter fun entry => entry.1 = index).map (·.2)

/-- What a move of the host does to its family: nothing, or one move of one member. -/
inductive FamilyStep (member : Machine State Move Event) (before after : Index → State) :
    Option (Index × Event) → Prop where
  | quiet : after = before → FamilyStep member before after none
  | moves (index : Index) (move : Move) :
      member.step (before index) move = some (after index) →
      (∀ other, other ≠ index → after other = before other) →
      FamilyStep member before after ((member.event (before index) move).map fun event =>
        (index, event))

/-- The machine hosts the family that `members` finds in its states. -/
structure Hosts (host : Machine Outer OuterMove (Index × Event))
    (member : Machine State Move Event) (members : Outer → Index → State) : Prop where
  initial : ∀ index, members host.initial index = member.initial
  step : ∀ {state next : Outer} {move : OuterMove}, host.step state move = some next →
    FamilyStep member (members state) (members next) (host.event state move)

theorem memberHistory_append [DecidableEq Index] (index : Index)
    (newer older : List (Index × Event)) :
    memberHistory index (newer ++ older) =
      memberHistory index newer ++ memberHistory index older := by
  simp [memberHistory]

/-- A step of the family is a step of the one that moves, and nothing for the others. -/
theorem FamilyStep.run [DecidableEq Index] {member : Machine State Move Event}
    {before after : Index → State} {event? : Option (Index × Event)}
    (step : FamilyStep member before after event?) {index : Index} {history : List Event}
    (run : member.Run history (before index)) :
    member.Run (memberHistory index event?.toList ++ history) (after index) := by
  cases step with
  | quiet same =>
      rw [same]
      exact run
  | moves current move stepped others =>
      by_cases here : index = current
      · subst here
        have events : memberHistory index ((member.event (before index) move).map fun event =>
            (index, event)).toList = (member.event (before index) move).toList := by
          cases member.event (before index) move <;> simp [memberHistory]
        rw [events]
        exact run.step move stepped
      · have events : memberHistory index ((member.event (before current) move).map fun event =>
            (current, event)).toList = [] := by
          cases member.event (before current) move <;> simp [memberHistory, Ne.symm here]
        rw [events, others index here]
        exact run

/-- A run of the host is a run of every member. -/
theorem Hosts.run [DecidableEq Index] {host : Machine Outer OuterMove (Index × Event)}
    {member : Machine State Move Event} {members : Outer → Index → State}
    (hosts : Hosts host member members) {history : List (Index × Event)} {state : Outer}
    (run : host.Run history state) (index : Index) :
    member.Run (memberHistory index history) (members state index) := by
  induction run with
  | initial =>
      rw [hosts.initial]
      exact .initial
  | step move _ stepped ih =>
      rw [memberHistory_append]
      exact (hosts.step stepped).run ih

end Kaigi.Interleaving
