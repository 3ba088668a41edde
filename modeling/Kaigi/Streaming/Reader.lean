import Mathlib.Data.List.Basic

/-!
# Incremental readers

A reader takes items off the front of a buffer that grows by chunks. If what it
takes does not depend on what comes behind, then the items of a stream do not
depend on how the stream was cut.
-/

set_option autoImplicit false

namespace Kaigi.Streaming

/-- One call: an item, nothing yet, or an error, and the bytes that are left. -/
abbrev Reader (Byte Item Error : Type) :=
  List Byte → Except Error (Option Item) × List Byte

/-- What a loop of calls has read: the items, the error that ended it, and the
bytes that are left. -/
structure Drained (Byte Item Error : Type) where
  items : List Item
  error : Option Error
  rest : List Byte

namespace Reader

variable {Byte Item Error : Type}

/-- Call the reader until it has nothing yet or fails. -/
def drain (next : Reader Byte Item Error) : Nat → List Byte → Option (Drained Byte Item Error)
  | 0, _ => none
  | fuel + 1, buffer =>
      match next buffer with
      | (.ok none, rest) => some ⟨[], none, rest⟩
      | (.error error, rest) => some ⟨[], some error, rest⟩
      | (.ok (some item), rest) =>
          (drain next fuel rest).map fun later => { later with items := item :: later.items }

/-- Drain after every chunk, until the first error. -/
def feed (next : Reader Byte Item Error) :
    List (List Byte) → List Byte → Option (Drained Byte Item Error)
  | [], buffer => some ⟨[], none, buffer⟩
  | chunk :: chunks, buffer =>
      (drain next ((buffer ++ chunk).length + 1) (buffer ++ chunk)).bind fun drained =>
        match drained.error with
        | some _ => some drained
        | none => (feed next chunks drained.rest).map fun later =>
            { later with items := drained.items ++ later.items }

/-- A call that does something takes bytes off the front, and what it does there does
not depend on the bytes behind. -/
structure Steady (next : Reader Byte Item Error) : Prop where
  waits : ∀ {buffer rest}, next buffer = (.ok none, rest) → rest = buffer
  consumes : ∀ {buffer item rest},
    next buffer = (.ok (some item), rest) → rest.length < buffer.length
  delivers : ∀ {buffer item rest}, next buffer = (.ok (some item), rest) →
    ∀ more, next (buffer ++ more) = (.ok (some item), rest ++ more)
  fails : ∀ {buffer error rest}, next buffer = (.error error, rest) →
    ∀ more, next (buffer ++ more) = (.error error, rest ++ more)

/-- The runs of the loop that end. -/
inductive Drains (next : Reader Byte Item Error) :
    List Byte → Drained Byte Item Error → Prop where
  | waits {buffer rest : List Byte} : next buffer = (.ok none, rest) →
      Drains next buffer ⟨[], none, rest⟩
  | fails {buffer rest : List Byte} {error : Error} : next buffer = (.error error, rest) →
      Drains next buffer ⟨[], some error, rest⟩
  | delivers {buffer rest : List Byte} {item : Item} {later : Drained Byte Item Error} :
      next buffer = (.ok (some item), rest) → Drains next rest later →
      Drains next buffer { later with items := item :: later.items }

variable {next : Reader Byte Item Error} {buffer : List Byte}
  {drained : Drained Byte Item Error}

theorem drains_of_drain {fuel : Nat} (ran : drain next fuel buffer = some drained) :
    Drains next buffer drained := by
  induction fuel generalizing buffer drained with
  | zero => cases ran
  | succ fuel ih =>
      unfold drain at ran
      split at ran
      · next waits =>
          cases ran
          exact .waits waits
      · next fails =>
          cases ran
          exact .fails fails
      · next delivers =>
          obtain ⟨later, ended, rfl⟩ := Option.map_eq_some_iff.mp ran
          exact .delivers delivers (ih ended)

/-- A loop ends in one way. -/
theorem Drains.unique {other : Drained Byte Item Error} (first : Drains next buffer drained)
    (second : Drains next buffer other) : drained = other := by
  induction first generalizing other with
  | waits same =>
      cases second with
      | waits alike =>
          rw [same] at alike
          cases alike
          rfl
      | fails alike | delivers alike =>
          rw [same] at alike
          cases alike
  | fails same =>
      cases second with
      | fails alike =>
          rw [same] at alike
          cases alike
          rfl
      | waits alike | delivers alike =>
          rw [same] at alike
          cases alike
  | delivers same _ ih =>
      cases second with
      | waits alike | fails alike =>
          rw [same] at alike
          cases alike
      | delivers alike later =>
          rw [same] at alike
          cases alike
          rw [ih later]

namespace Steady

variable (steady : Steady next)
include steady

/-- As many calls as there are bytes, and one more, end the loop. -/
theorem drain_ends {fuel : Nat} (enough : buffer.length < fuel) :
    ∃ drained, drain next fuel buffer = some drained := by
  induction fuel generalizing buffer with
  | zero => exact absurd enough (Nat.not_lt_zero _)
  | succ fuel ih =>
      unfold drain
      split
      · exact ⟨_, rfl⟩
      · exact ⟨_, rfl⟩
      · next delivers =>
          have shorter := steady.consumes delivers
          obtain ⟨later, ended⟩ := ih (Nat.lt_of_lt_of_le shorter (Nat.le_of_lt_succ enough))
          exact ⟨_, by rw [ended, Option.map_some]⟩

/-- After a loop without an error the reader has nothing yet. -/
theorem waiting (drains : Drains next buffer drained) (clean : drained.error = none) :
    next drained.rest = (.ok none, drained.rest) := by
  induction drains with
  | waits waits =>
      have same := steady.waits waits
      subst same
      exact waits
  | fails => cases clean
  | delivers _ _ ih => exact ih clean

/-- Without an error the loop goes on where it stopped when more bytes arrive. -/
theorem drains_more {more : List Byte} {later : Drained Byte Item Error}
    (drains : Drains next buffer drained) (clean : drained.error = none)
    (goesOn : Drains next (drained.rest ++ more) later) :
    Drains next (buffer ++ more) { later with items := drained.items ++ later.items } := by
  induction drains with
  | waits waits =>
      have same := steady.waits waits
      subst same
      exact goesOn
  | fails => cases clean
  | delivers delivers _ ih => exact .delivers (steady.delivers delivers more) (ih clean goesOn)

/-- An error is final, whatever comes behind. -/
theorem drains_failed (drains : Drains next buffer drained) (failed : drained.error ≠ none)
    (more : List Byte) :
    Drains next (buffer ++ more) { drained with rest := drained.rest ++ more } := by
  induction drains with
  | waits => exact absurd rfl failed
  | fails fails => exact .fails (steady.fails fails more)
  | delivers delivers _ ih => exact .delivers (steady.delivers delivers more) (ih failed)

/-- Chunk by chunk the reader gives the items and the error of the whole stream. -/
theorem feed_whole (chunks : List (List Byte)) (idle : next buffer = (.ok none, buffer)) :
    ∃ fed whole, feed next chunks buffer = some fed ∧
      Drains next (buffer ++ chunks.flatten) whole ∧ fed.items = whole.items ∧
        fed.error = whole.error ∧ (fed.error = none → fed.rest = whole.rest) := by
  induction chunks generalizing buffer with
  | nil =>
      refine ⟨_, _, rfl, ?_, rfl, rfl, fun _ => rfl⟩
      rw [List.flatten_nil, List.append_nil]
      exact .waits idle
  | cons chunk chunks ih =>
      obtain ⟨drained, ran⟩ := steady.drain_ends (Nat.lt_succ_self (buffer ++ chunk).length)
      have drains := drains_of_drain ran
      unfold feed
      rw [ran, Option.bind_some, List.flatten_cons, ← List.append_assoc]
      cases error : drained.error with
      | some error =>
          have whole := steady.drains_failed drains (by simp [error]) chunks.flatten
          exact ⟨drained, _, rfl, whole, rfl, rfl, fun clean => by simp [error] at clean⟩
      | none =>
          obtain ⟨fed, whole, feeds, goesOn, items, same, rest⟩ :=
            ih (steady.waiting drains error)
          refine ⟨{ fed with items := drained.items ++ fed.items }, _, ?_,
            steady.drains_more drains error goesOn, ?_, same, rest⟩
          · dsimp only
            rw [feeds, Option.map_some]
          · exact congrArg (drained.items ++ ·) items

/-- However a stream is cut, the items and the first error are the same. -/
theorem feed_congr {first second : List (List Byte)} (same : first.flatten = second.flatten)
    (idle : next buffer = (.ok none, buffer)) :
    (feed next first buffer).map (fun fed => (fed.items, fed.error)) =
      (feed next second buffer).map fun fed => (fed.items, fed.error) := by
  obtain ⟨fed, whole, feeds, drains, items, error, _⟩ := steady.feed_whole first idle
  obtain ⟨other, entire, otherFeeds, otherDrains, otherItems, otherError, _⟩ :=
    steady.feed_whole second idle
  rw [same] at drains
  have equal := drains.unique otherDrains
  subst equal
  rw [feeds, otherFeeds, Option.map_some, Option.map_some, items, error, otherItems, otherError]

end Steady

end Reader

end Kaigi.Streaming
