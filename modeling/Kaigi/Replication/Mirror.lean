import Mathlib.Data.List.Basic

/-!
# Mirrors

A follower holds of a value what it has heard of it last. It holds the true value
once the last change has been followed by a report, and every report since was true.
The latest event of a history comes first.
-/

set_option autoImplicit false

namespace Kaigi.Replication

/-- A value, and what a follower holds of it. What the follower hears of an event may
depend on what happened before. -/
structure Mirror (Event Value : Type) where
  truth : List Event → Value
  held : List Event → Value
  hears : Event → List Event → Option Value
  held_cons : ∀ event earlier,
    held (event :: earlier) = (hears event earlier).getD (held earlier)

variable {Event Value : Type}

/-- The last event of a history with a property. -/
theorem exists_last (holds : Event → Prop) {history : List Event} {event : Event}
    (happened : event ∈ history) (held : holds event) :
    ∃ newer last older, history = newer ++ last :: older ∧ holds last ∧
      ∀ later ∈ newer, ¬ holds later := by
  classical
  have found : (history.find? fun event => decide (holds event)).isSome = true :=
    List.find?_isSome.mpr ⟨event, happened, by simpa using held⟩
  obtain ⟨last, same⟩ := Option.isSome_iff_exists.mp found
  obtain ⟨holds, newer, older, rfl, none⟩ := List.find?_eq_some_iff_append.mp same
  exact ⟨newer, last, older, rfl, by simpa using holds, fun later member => by
    simpa using none later member⟩

/-- The value does not change in `newer`. -/
def Unchanged (truth : List Event → Value) (newer older : List Event) : Prop :=
  ∀ left event right, newer = left ++ event :: right →
    truth (event :: (right ++ older)) = truth (right ++ older)

namespace Unchanged

variable {truth : List Event → Value} {newer older left right : List Event}

theorem same (unchanged : Unchanged truth newer older) : truth (newer ++ older) = truth older := by
  induction newer with
  | nil => rfl
  | cons event rest ih =>
      refine (unchanged [] event rest rfl).trans (ih fun left current right split => ?_)
      exact unchanged (event :: left) current right (by rw [split]; rfl)

theorem earlier (unchanged : Unchanged truth (left ++ right) older) :
    Unchanged truth right older :=
  fun before event after split => unchanged (left ++ before) event after (by simp [split])

theorem later (unchanged : Unchanged truth (left ++ right) older) :
    Unchanged truth left (right ++ older) := by
  intro before event after split
  rw [← List.append_assoc]
  exact unchanged before event (after ++ right) (by simp [split])

/-- It has been the final value at every moment in between. -/
theorem throughout (unchanged : Unchanged truth newer older) (split : newer = left ++ right) :
    truth (right ++ older) = truth (newer ++ older) := by
  subst split
  rw [List.append_assoc]
  exact unchanged.later.same.symm

theorem map {Other : Type} (select : Value → Other) (unchanged : Unchanged truth newer older) :
    Unchanged (fun history => select (truth history)) newer older :=
  fun left event right split => congrArg select (unchanged left event right split)

end Unchanged

namespace Mirror

variable {mirror : Mirror Event Value} {newer older : List Event}

/-- The reports in `newer` are true when they are made, or at the end. -/
def Truthful (mirror : Mirror Event Value) (newer older : List Event) : Prop :=
  ∀ left event right value, newer = left ++ event :: right →
    mirror.hears event (right ++ older) = some value →
      value = mirror.truth (right ++ older) ∨ value = mirror.truth (newer ++ older)

/-- After a report that nothing contradicts, the follower holds what it says. -/
theorem held_of_heard {left right : List Event} {event : Event} {value : Value}
    (heard : mirror.hears event right = some value)
    (others : ∀ before later after, left = before ++ later :: after → ∀ other,
      mirror.hears later (after ++ event :: right) = some other → other = value) :
    mirror.held (left ++ event :: right) = value := by
  induction left with
  | nil => rw [List.nil_append, mirror.held_cons, heard, Option.getD_some]
  | cons later rest ih =>
      have before := ih fun before current after split =>
        others (later :: before) current after (by rw [split]; rfl)
      rw [List.cons_append, mirror.held_cons, before]
      cases same : mirror.hears later (rest ++ event :: right) with
      | none => rfl
      | some other => exact others [] later rest rfl other same

/-- If the value does not change and true reports are made, the follower ends with it. -/
theorem agrees (unchanged : Unchanged mirror.truth newer older)
    (truthful : mirror.Truthful newer older)
    (answered : ∃ left event right, newer = left ++ event :: right ∧
      (mirror.hears event (right ++ older)).isSome = true) :
    mirror.held (newer ++ older) = mirror.truth (newer ++ older) := by
  have final : ∀ left event right value, newer = left ++ event :: right →
      mirror.hears event (right ++ older) = some value →
        value = mirror.truth (newer ++ older) := by
    intro left event right value split heard
    rcases truthful left event right value split heard with rfl | rfl
    · exact unchanged.throughout (split.trans (List.append_cons ..))
    · rfl
  obtain ⟨left, event, right, split, heard⟩ := answered
  obtain ⟨value, heard⟩ := Option.isSome_iff_exists.mp heard
  have here := final left event right value split heard
  have regrouped : newer ++ older = left ++ event :: (right ++ older) := by simp [split]
  rw [← here]
  nth_rewrite 1 [regrouped]
  refine held_of_heard heard fun before later after within other same => ?_
  rw [here]
  refine final before later (after ++ event :: right) other (by simp [split, within]) ?_
  rw [List.append_assoc]
  exact same

end Mirror

end Kaigi.Replication
