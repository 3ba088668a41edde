import Mathlib.Data.List.Basic

/-!
# Machines and their runs

A machine is a deterministic step function over explicit moves: the scheduler
and the environment choose the moves, so all nondeterminism is in the list of
moves. A run records the events its moves leave behind, the latest one first.
-/

set_option autoImplicit false

namespace Kaigi.Interleaving

structure Machine (State Move Event : Type) where
  initial : State
  step : State → Move → Option State
  event : State → Move → Option Event

namespace Machine

variable {State Move Event : Type}

/-- `Run machine history state`: some sequence of moves leads from the initial
state to `state` and leaves the events of `history`, the latest one first. -/
inductive Run (machine : Machine State Move Event) : List Event → State → Prop where
  | initial : Run machine [] machine.initial
  | step {history : List Event} {state next : State} (move : Move) :
      Run machine history state → machine.step state move = some next →
      Run machine ((machine.event state move).toList ++ history) next

variable {machine : Machine State Move Event}

/-- An assertion about history and state that holds at the start and survives
every move holds after every run. -/
theorem Run.invariant (inv : List Event → State → Prop) (start : inv [] machine.initial)
    (preserved : ∀ history state move next, Run machine history state → inv history state →
      machine.step state move = some next →
        inv ((machine.event state move).toList ++ history) next)
    {history : List Event} {state : State} (run : Run machine history state) :
    inv history state := by
  induction run with
  | initial => exact start
  | step move earlier stepped ih => exact preserved _ _ move _ earlier ih stepped

/-- Every earlier part of a history belongs to an earlier run. -/
theorem Run.earlier {event : Event} {before history : List Event} {state : State}
    (run : Run machine history state) (after : List Event)
    (split : history = after ++ event :: before) :
    ∃ moved move next, Run machine before moved ∧ machine.step moved move = some next ∧
      machine.event moved move = some event := by
  induction run generalizing after with
  | initial => simp at split
  | @step history moved next move earlier stepped ih =>
      cases left : machine.event moved move with
      | none =>
          rw [left] at split
          exact ih after split
      | some current =>
          rw [left] at split
          cases after with
          | nil =>
              obtain ⟨rfl, rfl⟩ := List.cons.inj split
              exact ⟨moved, move, next, earlier, stepped, left⟩
          | cons head after => exact ih after (List.cons.inj split).2

/-- `Leads machine first start history state`: some sequence of moves leads on from `start`, where
the history was `first`, to `state`. -/
inductive Leads (machine : Machine State Move Event) (first : List Event) (start : State) :
    List Event → State → Prop where
  | here : Leads machine first start first start
  | step {history : List Event} {state next : State} (move : Move) :
      Leads machine first start history state → machine.step state move = some next →
      Leads machine first start ((machine.event state move).toList ++ history) next

theorem Run.leads {first history : List Event} {start state : State} (run : Run machine first start)
    (leads : Leads machine first start history state) : Run machine history state := by
  induction leads with
  | here => exact run
  | step move _ stepped ih => exact ih.step move stepped

/-- What holds after a run and survives every move holds wherever the run leads. -/
theorem Run.leads_invariant (inv : List Event → State → Prop) {first history : List Event}
    {start state : State} (run : Run machine first start) (holds : inv first start)
    (preserved : ∀ history state move next, Run machine history state → inv history state →
      machine.step state move = some next →
        inv ((machine.event state move).toList ++ history) next)
    (leads : Leads machine first start history state) : inv history state := by
  induction leads with
  | here => exact holds
  | step move before stepped ih => exact preserved _ _ move _ (run.leads before) ih stepped

/-- A run each move of which is allowed where it is made. -/
inductive RunWhere (machine : Machine State Move Event)
    (allows : List Event → State → Move → Prop) : List Event → State → Prop where
  | initial : RunWhere machine allows [] machine.initial
  | step {history : List Event} {state next : State} (move : Move) :
      RunWhere machine allows history state → allows history state move →
      machine.step state move = some next →
      RunWhere machine allows ((machine.event state move).toList ++ history) next

section RunWhere

variable {allows : List Event → State → Move → Prop} {history : List Event} {state : State}

/-- Every run is one in which everything is allowed. -/
theorem Run.unrestricted (run : Run machine history state) :
    RunWhere machine (fun _ _ _ => True) history state := by
  induction run with
  | initial => exact .initial
  | step move _ stepped ih => exact ih.step move trivial stepped

theorem RunWhere.run (run : RunWhere machine allows history state) :
    Run machine history state := by
  induction run with
  | initial => exact .initial
  | step move _ _ stepped ih => exact ih.step move stepped

/-- An assertion that holds at the start and survives every allowed move holds after every
run of allowed moves. -/
theorem RunWhere.invariant (inv : List Event → State → Prop) (start : inv [] machine.initial)
    (preserved : ∀ history state move next, RunWhere machine allows history state →
      inv history state → allows history state move → machine.step state move = some next →
        inv ((machine.event state move).toList ++ history) next)
    (run : RunWhere machine allows history state) : inv history state := by
  induction run with
  | initial => exact start
  | step move earlier allowed stepped ih => exact preserved _ _ move _ earlier ih allowed stepped

/-- Every earlier part of a history belongs to an earlier run of allowed moves. -/
theorem RunWhere.earlier {event : Event} {before : List Event}
    (run : RunWhere machine allows history state) (after : List Event)
    (split : history = after ++ event :: before) :
    ∃ moved move next, RunWhere machine allows before moved ∧
      machine.step moved move = some next ∧ machine.event moved move = some event := by
  induction run generalizing after with
  | initial => simp at split
  | @step history moved next move earlier allowed stepped ih =>
      cases left : machine.event moved move with
      | none =>
          rw [left] at split
          exact ih after split
      | some current =>
          rw [left] at split
          cases after with
          | nil =>
              obtain ⟨rfl, rfl⟩ := List.cons.inj split
              exact ⟨moved, move, next, earlier, stepped, left⟩
          | cons head after => exact ih after (List.cons.inj split).2

end RunWhere

/-- Perform the moves in order, collecting the events. -/
def execute (machine : Machine State Move Event) :
    List Move → List Event → State → Option (List Event × State)
  | [], history, state => some (history, state)
  | move :: rest, history, state =>
      match machine.step state move with
      | none => none
      | some next => execute machine rest ((machine.event state move).toList ++ history) next

theorem Run.execute {moves : List Move} {history final : List Event} {state last : State}
    (run : Run machine history state)
    (executed : machine.execute moves history state = some (final, last)) :
    Run machine final last := by
  induction moves generalizing history state with
  | nil =>
      cases executed
      exact run
  | cons move rest ih =>
      simp only [Machine.execute] at executed
      cases stepped : machine.step state move with
      | none => simp [stepped] at executed
      | some next =>
          rw [stepped] at executed
          exact ih (run.step move stepped) executed

theorem Leads.execute {first : List Event} {start : State} {moves : List Move}
    {history final : List Event} {state last : State}
    (leads : Leads machine first start history state)
    (executed : machine.execute moves history state = some (final, last)) :
    Leads machine first start final last := by
  induction moves generalizing history state with
  | nil =>
      cases executed
      exact leads
  | cons move rest ih =>
      simp only [Machine.execute] at executed
      cases stepped : machine.step state move with
      | none => simp [stepped] at executed
      | some next =>
          rw [stepped] at executed
          exact ih (leads.step move stepped) executed

/-- Perform the moves in order, as long as each passes the check. -/
def executeWhere (machine : Machine State Move Event) (check : State → Move → Bool) :
    List Move → List Event → State → Option (List Event × State)
  | [], history, state => some (history, state)
  | move :: rest, history, state =>
      if check state move then
        match machine.step state move with
        | none => none
        | some next =>
            executeWhere machine check rest ((machine.event state move).toList ++ history) next
      else none

theorem RunWhere.execute {allows : List Event → State → Move → Prop} {check : State → Move → Bool}
    (sound : ∀ history state move, check state move = true → allows history state move)
    {moves : List Move} {history final : List Event} {state last : State}
    (run : RunWhere machine allows history state)
    (executed : machine.executeWhere check moves history state = some (final, last)) :
    RunWhere machine allows final last := by
  induction moves generalizing history state with
  | nil =>
      cases executed
      exact run
  | cons move rest ih =>
      simp only [Machine.executeWhere] at executed
      split at executed
      · next checked =>
          cases stepped : machine.step state move with
          | none => simp [stepped] at executed
          | some next =>
              rw [stepped] at executed
              exact ih (run.step move (sound history state move checked) stepped) executed
      · cases executed

end Machine

end Kaigi.Interleaving
