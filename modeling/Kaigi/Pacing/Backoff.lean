import Mathlib.Order.Basic
import Mathlib.Data.List.Induction

/-!
# Attempts with a backoff

Attempts are scheduled one at a time, each after the next delay of a list, until a reset
starts the list again. A pending attempt is made at most once and not before it is due, or
it is cancelled.
-/

set_option autoImplicit false

namespace Kaigi.Pacing

/-- How many delays are used up, and when the pending attempt is due. -/
structure Pacer (Time : Type) where
  attempt : Nat
  due : Option Time

/-- What can be seen of a pacer. -/
inductive Beat (Time : Type) where
  | reset
  | scheduled (now due : Time)
  | fired (now : Time)
deriving DecidableEq

def Beat.isReset {Time : Type} : Beat Time → Bool
  | .reset => true
  | _ => false

/-- When an attempt was scheduled, and when it is due. -/
def Beat.round? {Time : Type} : Beat Time → Option (Time × Time)
  | .scheduled now due => some (now, due)
  | _ => none

variable {Delay Time : Type} [LE Time] {delays : List Delay} {dueAt : Time → Delay → Time}

inductive PacerStep (delays : List Delay) (dueAt : Time → Delay → Time) :
    Pacer Time → Option (Beat Time) → Pacer Time → Prop where
  | idle {before after : Pacer Time} : after.attempt = before.attempt →
      after.due = before.due ∨ after.due = none → PacerStep delays dueAt before none after
  | reset {before after : Pacer Time} : after.attempt = 0 → after.due = none →
      PacerStep delays dueAt before (some .reset) after
  | scheduled {before after : Pacer Time} {now : Time} {delay : Delay} : before.due = none →
      delays[before.attempt]? = some delay → after.attempt = before.attempt + 1 →
      after.due = some (dueAt now delay) →
      PacerStep delays dueAt before (some (.scheduled now (dueAt now delay))) after
  | fired {before after : Pacer Time} {now due : Time} : before.due = some due → due ≤ now →
      after.attempt = before.attempt → after.due = none →
      PacerStep delays dueAt before (some (.fired now)) after

/-- `Paces delays dueAt before beats after`: the beats of some steps in a row. -/
inductive Paces (delays : List Delay) (dueAt : Time → Delay → Time) :
    Pacer Time → List (Beat Time) → Pacer Time → Prop where
  | refl {pacer : Pacer Time} : Paces delays dueAt pacer [] pacer
  | step {before middle after : Pacer Time} {beat : Option (Beat Time)} {beats : List (Beat Time)} :
      PacerStep delays dueAt before beat middle → Paces delays dueAt middle beats after →
      Paces delays dueAt before (beat.toList ++ beats) after

variable {before after : Pacer Time} {beats : List (Beat Time)}

theorem PacerStep.bounded {beat : Option (Beat Time)}
    (step : PacerStep delays dueAt before beat after)
    (bounded : before.attempt ≤ delays.length) : after.attempt ≤ delays.length := by
  cases step with
  | idle attempt _ | fired _ _ attempt _ =>
      rw [attempt]
      exact bounded
  | reset attempt _ =>
      rw [attempt]
      exact Nat.zero_le _
  | scheduled _ delay attempt _ =>
      obtain ⟨below, _⟩ := List.getElem?_eq_some_iff.mp delay
      rw [attempt]
      exact below

/-- No more attempts are counted than there are delays. -/
theorem Paces.bounded (paces : Paces delays dueAt before beats after)
    (bounded : before.attempt ≤ delays.length) : after.attempt ≤ delays.length := by
  induction paces with
  | refl => exact bounded
  | step step _ ih => exact ih (step.bounded bounded)

/-- Between two resets the delays are used in order, each of them once. -/
theorem Paces.inOrder (paces : Paces delays dueAt before beats after)
    (noReset : ∀ beat ∈ beats, beat.isReset = false) :
    beats.filterMap Beat.round? =
        List.zipWith (fun now delay => (now, dueAt now delay))
          ((beats.filterMap Beat.round?).map Prod.fst) (delays.drop before.attempt) ∧
      after.attempt = before.attempt + (beats.filterMap Beat.round?).length := by
  induction paces with
  | refl => exact ⟨rfl, rfl⟩
  | @step _ _ _ beat _ step _ ih =>
      have later := ih fun beat member => noReset beat (List.mem_append_right _ member)
      cases step with
      | idle attempt _ =>
          rw [attempt] at later
          exact later
      | fired _ _ attempt _ =>
          rw [attempt] at later
          exact later
      | reset => cases noReset .reset List.mem_cons_self
      | scheduled _ found attempt _ =>
          obtain ⟨rounds, count⟩ := later
          obtain ⟨below, rfl⟩ := List.getElem?_eq_some_iff.mp found
          rw [attempt] at rounds count
          have rounded : ∀ now due (rest : List (Beat Time)),
              (Beat.scheduled now due :: rest).filterMap Beat.round? =
                (now, due) :: rest.filterMap Beat.round? := fun _ _ _ => rfl
          rw [Option.toList_some, List.singleton_append, rounded, List.map_cons, List.length_cons,
            List.drop_eq_getElem_cons below, List.zipWith_cons_cons, ← rounds]
          exact ⟨rfl, by omega⟩

/-- An attempt is made only where the beat before has scheduled it, and not before it was
due. -/
theorem Paces.fires (paces : Paces delays dueAt before beats after)
    {earlier later : List (Beat Time)}
    {now : Time} (split : beats = earlier ++ .fired now :: later) :
    (∃ front scheduledAt due, earlier = front ++ [.scheduled scheduledAt due] ∧ due ≤ now) ∨
      earlier = [] ∧ ∃ due, before.due = some due ∧ due ≤ now := by
  induction paces generalizing earlier with
  | refl =>
      have lengths := congrArg List.length split
      simp at lengths
  | @step before middle _ beat beats step _ ih =>
      cases beat with
      | none =>
          rcases ih split with scheduled | ⟨first, due, pending, reached⟩
          · exact .inl scheduled
          · cases step with
            | idle _ dues =>
                refine .inr ⟨first, due, ?_, reached⟩
                rcases dues with same | cleared
                · exact same ▸ pending
                · rw [cleared] at pending
                  cases pending
      | some beat =>
          cases earlier with
          | nil =>
              obtain ⟨rfl, rfl⟩ := List.cons.inj split
              cases step with
              | fired pending reached => exact .inr ⟨rfl, _, pending, reached⟩
          | cons head rest =>
              obtain ⟨rfl, remaining⟩ := List.cons.inj split
              refine .inl ?_
              rcases ih remaining with
                ⟨front, scheduledAt, due, rfl, reached⟩ | ⟨rfl, due, pending, reached⟩
              · exact ⟨beat :: front, scheduledAt, due, rfl, reached⟩
              · cases step with
                | reset _ cleared | fired _ _ _ cleared =>
                    rw [cleared] at pending
                    cases pending
                | scheduled _ _ _ set =>
                    rw [set] at pending
                    cases pending
                    exact ⟨[], _, _, rfl, reached⟩

end Kaigi.Pacing
