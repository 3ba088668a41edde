import Mathlib.Algebra.Order.Group.Nat
import Mathlib.Data.Finset.SDiff

/-!
# Change logs

Somebody keeps a set of members and publishes every change of it under the next
number. A follower that replays what was published gets the same set. Numbers
stop at a limit.
-/

set_option autoImplicit false

namespace Kaigi.Replication

structure Change (Id : Type) where
  number : Nat
  joined : List Id
  left : List Id

/-- The members, and the number given out last. -/
@[ext] structure Keeper (Id : Type) where
  members : Finset Id
  last : Nat

variable {Id : Type} [DecidableEq Id]

def Change.apply (members : Finset Id) (change : Change Id) : Finset Id :=
  (members ∪ change.joined.toFinset) \ change.left.toFinset

@[simp] theorem Change.apply_joins (members : Finset Id) (number : Nat) (id : Id) :
    Change.apply members ⟨number, [id], []⟩ = insert id members := by
  ext other
  simp only [Change.apply, List.toFinset_cons, List.toFinset_nil, Finset.sdiff_empty,
    Finset.mem_union, Finset.mem_insert, Finset.notMem_empty, or_false]
  exact or_comm

@[simp] theorem Change.apply_leaves (members : Finset Id) (number : Nat) (id : Id) :
    Change.apply members ⟨number, [], [id]⟩ = members \ {id} := by
  ext other
  simp [Change.apply]

@[simp] theorem Change.apply_nothing (members : Finset Id) (number : Nat) :
    Change.apply members ⟨number, [], []⟩ = members := by
  ext other
  simp [Change.apply]

def replay (log : List (Change Id)) : Finset Id :=
  log.foldl Change.apply ∅

theorem replay_append (log : List (Change Id)) (change : Change Id) :
    replay (log ++ [change]) = change.apply (replay log) := by
  simp [replay]

/-- What is published while one keeper turns into another. -/
inductive Publishes (limit : Nat) (before : Keeper Id) :
    List (Change Id) → Keeper Id → Prop where
  | nothing : Publishes limit before [] before
  | next {log : List (Change Id)} {middle : Keeper Id} {change : Change Id} :
      Publishes limit before log middle → change.number = min (middle.last + 1) limit →
      Publishes limit before (log ++ [change]) ⟨change.apply middle.members, change.number⟩

variable {limit : Nat} {before middle after : Keeper Id} {log later : List (Change Id)}

/-- Nothing is published while the keeper stays the same. -/
theorem Publishes.unchanged (same : after = before) : Publishes limit before [] after := by
  rw [same]
  exact .nothing

theorem Publishes.one {change : Change Id}
    (numbered : change.number = min (before.last + 1) limit)
    (members : after.members = change.apply before.members) (last : after.last = change.number) :
    Publishes limit before [change] after := by
  have published : Publishes limit before ([] ++ [change])
      ⟨change.apply before.members, change.number⟩ := .next .nothing numbered
  rw [← members, ← last] at published
  exact published

theorem Publishes.trans (first : Publishes limit before log middle)
    (second : Publishes limit middle later after) :
    Publishes limit before (log ++ later) after := by
  induction second with
  | nothing => rwa [List.append_nil]
  | next _ numbered ih =>
      rw [← List.append_assoc]
      exact .next ih numbered

/-- A follower that has replayed everything has the members of the keeper. -/
theorem Publishes.replayed (published : Publishes limit ⟨∅, 0⟩ log after) :
    replay log = after.members := by
  induction published with
  | nothing => rfl
  | next _ _ ih => rw [replay_append, ih]

theorem Publishes.last (published : Publishes limit ⟨∅, 0⟩ log after) :
    after.last = min log.length limit := by
  induction published with
  | nothing => exact (Nat.zero_min limit).symm
  | next _ numbered ih =>
      rw [List.length_append, List.length_singleton]
      dsimp only
      omega

/-- The numbers count the changes, up to the limit. -/
theorem Publishes.numbered (published : Publishes limit ⟨∅, 0⟩ log after) {index : Nat}
    {change : Change Id} (found : log[index]? = some change) :
    change.number = min (index + 1) limit := by
  induction published with
  | nothing => cases found
  | next earlier numbered ih =>
      rw [List.getElem?_append] at found
      split at found
      · exact ih found
      · next beyond =>
          have last := earlier.last
          rw [List.getElem?_singleton] at found
          split at found
          · cases found
            omega
          · cases found

theorem Publishes.of_nil (published : Publishes limit before [] after) : after = before := by
  generalize none : ([] : List (Change Id)) = log at published
  cases published with
  | nothing => rfl
  | next => simp at none

theorem Publishes.of_singleton {change : Change Id}
    (published : Publishes limit before [change] after) :
    change.number = min (before.last + 1) limit ∧ after.last = change.number := by
  generalize single : [change] = log at published
  cases published with
  | nothing => cases single
  | @next log middle latest earlier numbered =>
      obtain ⟨rfl, same⟩ | ⟨_, same⟩ := List.append_eq_singleton_iff.mp single.symm
      · cases same
        rw [earlier.of_nil] at numbered
        exact ⟨numbered, rfl⟩
      · cases same

/-- What a follower applies who skips every item whose number is not greater than the
last one it has applied. -/
def heeded {Item : Type} (number : Item → Nat) (last : Nat) : List Item → List Item
  | [] => []
  | item :: rest =>
      if number item ≤ last then heeded number last rest
      else item :: heeded number (number item) rest

/-- Such a follower loses nothing if the numbers increase. -/
theorem heeded_of_increasing {Item : Type} {number : Item → Nat} {last : Nat} {items : List Item}
    (above : ∀ item ∈ items, last < number item)
    (increasing : items.Pairwise fun first second => number first < number second) :
    heeded number last items = items := by
  induction items generalizing last with
  | nil => rfl
  | cons item rest ih =>
      obtain ⟨next, increasing⟩ := List.pairwise_cons.mp increasing
      unfold heeded
      rw [if_neg (Nat.not_le.mpr (above item List.mem_cons_self)), ih next increasing]

end Kaigi.Replication
