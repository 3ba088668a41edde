import Mathlib.Data.List.Basic

/-!
# Tasks that read until they fail

A task changes its state with every input, and an input may end it. A property that a step
gains exactly under a condition holds in every state exactly when every step meets the
condition.
-/

set_option autoImplicit false

namespace Kaigi.Streaming

variable {State Input Failure : Type} (step : State → Input → Except Failure State)

/-- The states after each input, up to the one that ends the task. -/
def reached : State → List Input → List State
  | _, [] => []
  | state, input :: rest =>
      match step state input with
      | .error _ => []
      | .ok next => next :: reached next rest

/-- The condition holds of every step that does not end the task. -/
def EveryStep (condition : State → Input → Prop) : State → List Input → Prop
  | _, [] => True
  | state, input :: rest =>
      match step state input with
      | .error _ => True
      | .ok next => condition state input ∧ EveryStep condition next rest

variable {step}

instance decidableEveryStep {condition : State → Input → Prop}
    [∀ state input, Decidable (condition state input)] :
    (inputs : List Input) → (state : State) → Decidable (EveryStep step condition state inputs)
  | [], _ => inferInstanceAs (Decidable True)
  | input :: rest, state =>
      match read : step state input with
      | .error _ => .isTrue (by rw [EveryStep, read]; trivial)
      | .ok next =>
          have : Decidable (EveryStep step condition next rest) := decidableEveryStep rest next
          decidable_of_iff (condition state input ∧ EveryStep step condition next rest)
            (by rw [EveryStep, read])

/-- What holds of every state holds after every step. -/
theorem everyStep_of_reached {holds : State → Prop} {state : State} {inputs : List Input}
    (all : ∀ next ∈ reached step state inputs, holds next) :
    EveryStep step (fun state input => ∀ next, step state input = .ok next → holds next)
      state inputs := by
  induction inputs generalizing state with
  | nil => trivial
  | cons input rest ih =>
      unfold EveryStep
      unfold reached at all
      cases read : step state input with
      | error failure => trivial
      | ok next =>
          rw [read] at all
          obtain ⟨first, later⟩ := List.forall_mem_cons.mp all
          refine ⟨?_, ih later⟩
          intro other same
          cases same
          exact first

/-- What every step keeps holds of every state. -/
theorem invariant_of_everyStep (invariant : State → Prop) {assumed : State → Input → Prop}
    (keeps : ∀ {state input next}, invariant state → step state input = .ok next →
      assumed state input → invariant next)
    {state : State} {inputs : List Input} (holds : invariant state)
    (assumes : EveryStep step assumed state inputs) :
    ∀ next ∈ reached step state inputs, invariant next := by
  induction inputs generalizing state with
  | nil => exact List.forall_mem_nil _
  | cons input rest ih =>
      unfold reached
      unfold EveryStep at assumes
      cases read : step state input with
      | error failure => exact List.forall_mem_nil _
      | ok next =>
          rw [read] at assumes
          have kept := keeps holds read assumes.1
          exact List.forall_mem_cons.mpr ⟨kept, ih kept assumes.2⟩

/-- Where every step keeps the invariant, and a step from a good state leads to a good one
exactly under the condition, every state is good exactly when every step meets the condition. -/
theorem reached_iff_everyStep (invariant : State → Prop) {good : State → Prop}
    {assumed condition : State → Input → Prop}
    (keeps : ∀ {state input next}, invariant state → step state input = .ok next →
      assumed state input → invariant next)
    (exact : ∀ {state input next}, invariant state → good state → step state input = .ok next →
      assumed state input → (good next ↔ condition state input))
    {state : State} {inputs : List Input} (holds : invariant state) (start : good state)
    (assumes : EveryStep step assumed state inputs) :
    (∀ next ∈ reached step state inputs, good next) ↔ EveryStep step condition state inputs := by
  induction inputs generalizing state with
  | nil => exact iff_of_true (List.forall_mem_nil _) trivial
  | cons input rest ih =>
      unfold EveryStep reached
      unfold EveryStep at assumes
      cases read : step state input with
      | error failure => exact iff_of_true (List.forall_mem_nil _) trivial
      | ok next =>
          rw [read] at assumes
          have kept := keeps holds read assumes.1
          dsimp only
          rw [List.forall_mem_cons, ← exact holds start read assumes.1]
          exact and_congr_right fun good => ih kept good assumes.2

end Kaigi.Streaming
