import Mathlib.Logic.Relation

/-!
# Processes over a shared state

A process is a finite program whose only contact with the other processes is a
sequence of atomic operations on one shared state. Between two operations any
number of operations of other processes may happen. This is the shape of an
asynchronous handler that takes a lock, computes, and releases it before the
next `await`.
-/

set_option autoImplicit false

namespace Kaigi.Interleaving

/-- A finite process: it returns, fails, reads an answer of its environment, or
performs an operation and continues from the shared state it found. -/
inductive Process (Answer State Op Error Value : Type) : Type where
  | done (value : Value)
  | fail (error : Error)
  | ask (next : Answer → Process Answer State Op Error Value)
  | atomic (op : Op) (next : State → Process Answer State Op Error Value)

namespace Process

variable {Answer State Op Error Value Result : Type}

/-- Sequential composition. A failure skips the rest of the program. -/
def bind : Process Answer State Op Error Value →
    (Value → Process Answer State Op Error Result) →
    Process Answer State Op Error Result
  | .done value, next => next value
  | .fail error, _ => .fail error
  | .ask resume, next => .ask fun answer => (resume answer).bind next
  | .atomic op resume, next => .atomic op fun state => (resume state).bind next

instance : Monad (Process Answer State Op Error) where
  pure := .done
  bind := bind

/-- Perform `op` and return what `view` reads from the state it found. -/
def perform (op : Op) (view : State → Value) : Process Answer State Op Error Value :=
  .atomic op fun state => .done (view state)

/-- The next answer of the environment. -/
def answer : Process Answer State Op Error Answer :=
  .ask .done

/-- Run `body` on every item in order, stopping at the first failure. -/
def each {Item : Type} : List Item → (Item → Process Answer State Op Error Unit) →
    Process Answer State Op Error Unit
  | [], _ => .done ()
  | item :: rest, body => (body item).bind fun _ => each rest body

/-- The operation the process performs next, if that is its next step. -/
def operation? : Process Answer State Op Error Value → Option Op
  | .atomic op _ => some op
  | _ => none

/-- The process after one step: an answer is consumed, or the shared state
found by its operation is read. A finished process stays as it is. -/
def resume (answer : Answer) (state : State) :
    Process Answer State Op Error Value → Process Answer State Op Error Value
  | .ask next => next answer
  | .atomic _ next => next state
  | finished => finished

/-- `program` can come to `rest` while nobody else moves. -/
inductive Alone (act : Op → State → State) :
    Process Answer State Op Error Value → State → Process Answer State Op Error Value → State →
      Prop where
  | here {program : Process Answer State Op Error Value} {state : State} :
      Alone act program state program state
  | ask {next : Answer → Process Answer State Op Error Value} {state later : State}
      {rest : Process Answer State Op Error Value} (answer : Answer) :
      Alone act (next answer) state rest later → Alone act (.ask next) state rest later
  | atomic {op : Op} {next : State → Process Answer State Op Error Value} {state later : State}
      {rest : Process Answer State Op Error Value} :
      Alone act (next state) (act op state) rest later →
        Alone act (.atomic op next) state rest later

@[simp] theorem pure_eq (value : Value) :
    (pure value : Process Answer State Op Error Value) = .done value := rfl

@[simp] theorem bind_eq (program : Process Answer State Op Error Value)
    (next : Value → Process Answer State Op Error Result) :
    program >>= next = program.bind next := rfl

@[simp] theorem done_bind (value : Value)
    (next : Value → Process Answer State Op Error Result) :
    (Process.done value : Process Answer State Op Error Value).bind next = next value := rfl

@[simp] theorem fail_bind (error : Error)
    (next : Value → Process Answer State Op Error Result) :
    (Process.fail error : Process Answer State Op Error Value).bind next = .fail error := rfl

end Process

/-- What one process may rely on and must respect: the world it runs in, the
part of it that it sees, the effect of its operations, the moves of everybody
else, the guard each of its operations must satisfy and the condition under
which it may fail. -/
structure Contract (State World Op Error : Type) where
  view : World → State
  act : Op → World → World
  rely : World → World → Prop
  rely_refl : ∀ world, rely world world
  rely_trans : ∀ {first second third}, rely first second → rely second third → rely first third
  guard : Op → World → Prop
  abort : Error → World → Prop
  abort_stable : ∀ {error world world'}, rely world world' → abort error world → abort error world'

namespace Process

variable {Answer State World Op Error Value Result : Type}

/-- `Meets contract post program world`: started in `world`, with the other
processes moving by `rely` between its operations, `program` performs each
operation only where its guard holds, fails only where `abort` allows it, and
returns only values and worlds that satisfy `post`. -/
def Meets (contract : Contract State World Op Error) (post : Value → World → Prop) :
    Process Answer State Op Error Value → World → Prop
  | .done value, world => ∀ world', contract.rely world world' → post value world'
  | .fail error, world => contract.abort error world
  | .ask next, world => ∀ answer, Meets contract post (next answer) world
  | .atomic op next, world => ∀ world', contract.rely world world' →
      contract.guard op world' ∧
        Meets contract post (next (contract.view world')) (contract.act op world')

variable {contract : Contract State World Op Error}

/-- The moves of the others cannot break a process that meets its contract. -/
theorem Meets.stable {post : Value → World → Prop}
    {program : Process Answer State Op Error Value} {world world' : World}
    (meets : program.Meets contract post world) (moved : contract.rely world world') :
    program.Meets contract post world' := by
  induction program with
  | done value => exact fun later step => meets later (contract.rely_trans moved step)
  | fail error => exact contract.abort_stable moved meets
  | ask next ih => exact fun answer => ih answer (meets answer)
  | atomic op next _ => exact fun later step => meets later (contract.rely_trans moved step)

/-- Weakening of the postcondition. -/
theorem Meets.mono {post weaker : Value → World → Prop}
    {program : Process Answer State Op Error Value} {world : World}
    (meets : program.Meets contract post world)
    (imp : ∀ value world, post value world → weaker value world) :
    program.Meets contract weaker world := by
  induction program generalizing world with
  | done value => exact fun later step => imp value later (meets later step)
  | fail error => exact meets
  | ask next ih => exact fun answer => ih answer (meets answer)
  | atomic op next ih =>
      intro later step
      obtain ⟨allowed, rest⟩ := meets later step
      exact ⟨allowed, ih _ rest⟩

/-- What is shown of a process separately holds together. -/
theorem Meets.and {post also : Value → World → Prop}
    {program : Process Answer State Op Error Value} {world : World}
    (meets : program.Meets contract post world) (too : program.Meets contract also world) :
    program.Meets contract (fun value later => post value later ∧ also value later) world := by
  induction program generalizing world with
  | done value => exact fun later step => ⟨meets later step, too later step⟩
  | fail error => exact meets
  | ask next ih => exact fun answer => ih answer (meets answer) (too answer)
  | atomic op next ih =>
      intro later step
      exact ⟨(meets later step).1, ih _ (meets later step).2 (too later step).2⟩

/-- The rule of sequential composition. -/
theorem Meets.bind {middle : Value → World → Prop} {post : Result → World → Prop}
    {program : Process Answer State Op Error Value}
    {next : Value → Process Answer State Op Error Result} {world : World}
    (first : program.Meets contract middle world)
    (second : ∀ value world, middle value world → (next value).Meets contract post world) :
    (program.bind next).Meets contract post world := by
  induction program generalizing world with
  | done value => exact second value world (first world (contract.rely_refl world))
  | fail error => exact first
  | ask resume ih => exact fun answer => ih answer (first answer)
  | atomic op resume ih =>
      intro later step
      obtain ⟨allowed, rest⟩ := first later step
      exact ⟨allowed, ih _ rest⟩

/-- One step of a process that meets its contract: an operation satisfies its
guard, and the rest of the process meets the contract from there. -/
theorem Meets.resume_atomic {post : Value → World → Prop}
    {program : Process Answer State Op Error Value} {world : World} {op : Op}
    (meets : program.Meets contract post world) (performs : program.operation? = some op)
    (answer : Answer) :
    contract.guard op world ∧
      (program.resume answer (contract.view world)).Meets contract post
        (contract.act op world) := by
  cases program with
  | done | fail | ask => cases performs
  | atomic next rest =>
      cases performs
      exact meets world (contract.rely_refl world)

theorem Meets.resume_quiet {post : Value → World → Prop}
    {program : Process Answer State Op Error Value} {world : World}
    (meets : program.Meets contract post world) (quiet : program.operation? = none)
    (answer : Answer) (state : State) :
    (program.resume answer state).Meets contract post world := by
  cases program with
  | done | fail => exact meets
  | ask next => exact meets answer
  | atomic => cases quiet

/-- `program` keeps the assertion `inv` from wherever it starts. -/
def Keeps (contract : Contract State World Op Error) (inv : World → Prop)
    (program : Process Answer State Op Error Value) : Prop :=
  ∀ world, inv world → program.Meets contract (fun _ => inv) world

theorem Keeps.bind {inv : World → Prop} {program : Process Answer State Op Error Value}
    {next : Value → Process Answer State Op Error Result}
    (first : program.Keeps contract inv) (second : ∀ value, (next value).Keeps contract inv) :
    (program.bind next).Keeps contract inv :=
  fun world start => (first world start).bind fun value world' holds => second value world' holds

/-- An assertion is stable when no move of the others can break it. -/
def Stable (contract : Contract State World Op Error) (inv : World → Prop) : Prop :=
  ∀ ⦃world world'⦄, contract.rely world world' → inv world → inv world'

theorem Keeps.done {inv : World → Prop} (stable : Stable contract inv) (value : Value) :
    (Process.done value : Process Answer State Op Error Value).Keeps contract inv :=
  fun _ start _ moved => stable moved start

theorem Keeps.ask {inv : World → Prop} {next : Answer → Process Answer State Op Error Value}
    (each : ∀ answer, (next answer).Keeps contract inv) :
    (Process.ask next).Keeps contract inv :=
  fun world start answer => each answer world start

/-- An operation whose guard follows from a stable assertion, and which keeps
it, may be performed anywhere in a program that keeps the assertion. -/
theorem Keeps.atomic {inv : World → Prop} {op : Op}
    {next : State → Process Answer State Op Error Value}
    (stable : Stable contract inv)
    (allowed : ∀ world, inv world → contract.guard op world)
    (kept : ∀ world, inv world → inv (contract.act op world))
    (rest : ∀ state, (next state).Keeps contract inv) :
    (Process.atomic op next).Keeps contract inv := by
  intro world start world' moved
  have here := stable moved start
  exact ⟨allowed world' here, rest _ _ (kept world' here)⟩

theorem Keeps.each {inv : World → Prop} {Item : Type}
    (stable : Stable contract inv) {items : List Item}
    {body : Item → Process Answer State Op Error Unit}
    (item : ∀ item ∈ items, (body item).Keeps contract inv) :
    (Process.each items body).Keeps contract inv := by
  induction items with
  | nil => exact .done stable ()
  | cons head rest ih =>
      exact .bind (item head List.mem_cons_self) fun _ =>
        ih fun current member => item current (List.mem_cons_of_mem _ member)

/-- Every operation that the program can perform is allowed. -/
def Performs (allowed : Op → Prop) : Process Answer State Op Error Value → Prop
  | .done _ | .fail _ => True
  | .ask next => ∀ answer, Performs allowed (next answer)
  | .atomic op next => allowed op ∧ ∀ state, Performs allowed (next state)

theorem Performs.bind {allowed : Op → Prop} {program : Process Answer State Op Error Value}
    {next : Value → Process Answer State Op Error Result} (first : program.Performs allowed)
    (second : ∀ value, (next value).Performs allowed) : (program.bind next).Performs allowed := by
  induction program with
  | done value => exact second value
  | fail => trivial
  | ask resume ih => exact fun answer => ih answer (first answer)
  | atomic op resume ih => exact ⟨first.1, fun state => ih state (first.2 state)⟩

theorem Performs.each {allowed : Op → Prop} {Item : Type} {items : List Item}
    {body : Item → Process Answer State Op Error Unit}
    (item : ∀ item ∈ items, (body item).Performs allowed) :
    (Process.each items body).Performs allowed := by
  induction items with
  | nil => trivial
  | cons head rest ih =>
      exact .bind (item head List.mem_cons_self) fun _ =>
        ih fun current member => item current (List.mem_cons_of_mem _ member)

theorem performs_any (program : Process Answer State Op Error Value) :
    program.Performs fun _ => True := by
  induction program with
  | done | fail => trivial
  | ask next ih => exact ih
  | atomic op next ih => exact ⟨trivial, ih⟩

theorem Performs.mono {allowed weaker : Op → Prop} {program : Process Answer State Op Error Value}
    (performs : program.Performs allowed) (imp : ∀ op, allowed op → weaker op) :
    program.Performs weaker := by
  induction program with
  | done | fail => trivial
  | ask next ih => exact fun answer => ih answer (performs answer)
  | atomic op next ih => exact ⟨imp op performs.1, fun state => ih state (performs.2 state)⟩

theorem Performs.and {allowed also : Op → Prop} {program : Process Answer State Op Error Value}
    (performs : program.Performs allowed) (too : program.Performs also) :
    program.Performs fun op => allowed op ∧ also op := by
  induction program with
  | done | fail => trivial
  | ask next ih => exact fun answer => ih answer (performs answer) (too answer)
  | atomic op next ih =>
      exact ⟨⟨performs.1, too.1⟩, fun state => ih state (performs.2 state) (too.2 state)⟩

theorem Performs.resume {allowed : Op → Prop} {program : Process Answer State Op Error Value}
    (performs : program.Performs allowed) (answer : Answer) (state : State) :
    (program.resume answer state).Performs allowed := by
  cases program with
  | done | fail => trivial
  | ask next => exact performs answer
  | atomic op next => exact performs.2 state

theorem Performs.operation {allowed : Op → Prop} {program : Process Answer State Op Error Value}
    {op : Op} (performs : program.Performs allowed) (next : program.operation? = some op) :
    allowed op := by
  cases program with
  | done | fail | ask => cases next
  | atomic first rest =>
      cases next
      exact performs.1

/-- A program that performs only operations that keep an assertion keeps it. -/
theorem Performs.keeps {inv : World → Prop} {allowed : Op → Prop}
    {program : Process Answer State Op Error Value} (performs : program.Performs allowed)
    (stable : Stable contract inv)
    (kept : ∀ op world, allowed op → inv world →
      contract.guard op world ∧ inv (contract.act op world))
    (aborts : ∀ error world, inv world → contract.abort error world) :
    program.Keeps contract inv := by
  induction program with
  | done value => exact .done stable value
  | fail error => exact aborts error
  | ask next ih => exact .ask fun answer => ih answer (performs answer)
  | atomic op next ih =>
      exact .atomic stable (fun world start => (kept op world performs.1 start).1)
        (fun world start => (kept op world performs.1 start).2)
        fun state => ih state (performs.2 state)

end Process

end Kaigi.Interleaving
