import Kaigi.Collections.HashMap
import Mathlib.Algebra.Ring.Nat

/-!
# Gaps in numbered streams

A counter of gaps keeps the highest number so far and counts what a number leaves out above
it. A joint counter of several streams counts with each of them as long as their numbers
leave nothing out, or come from the stream that is ahead of the others.
-/

set_option autoImplicit false

namespace Kaigi.Metering

open Collections

/-- How many numbers are left out between the highest one so far and this one. -/
def gap : Option Nat → Nat → Nat
  | none, _ => 0
  | some last, number => number - last - 1

/-- The highest number so far, with this one. -/
def highest : Option Nat → Nat → Nat
  | none, number => number
  | some last, number => max last number

/-- The joint counter has seen what the counter of one stream has. -/
def Covers (joint own : Option Nat) : Prop :=
  ∀ last, own = some last → ∃ top, joint = some top ∧ last ≤ top

/-- This number is the one after the last. -/
def Follows (last : Option Nat) (number : Nat) : Prop :=
  ∀ before, last = some before → number = before + 1

/-- The stream is ahead of the others, or its number leaves nothing out in either count. -/
def Tallies (joint own : Option Nat) (number : Nat) : Prop :=
  own = joint ∨ gap joint number = 0 ∧ gap own number = 0

instance decidableFollows : (last : Option Nat) → (number : Nat) → Decidable (Follows last number)
  | none, _ => .isTrue (by intro before same; cases same)
  | some before, number => decidable_of_iff (number = before + 1) (by simp [Follows])

instance decidableTallies {joint own : Option Nat} {number : Nat} :
    Decidable (Tallies joint own number) :=
  inferInstanceAs (Decidable (_ ∨ _))

theorem covers_none (joint : Option Nat) : Covers joint none := by
  intro last same
  cases same

theorem Covers.raise {joint own : Option Nat} (covers : Covers joint own) (number : Nat) :
    Covers (some (highest joint number)) own := by
  intro last same
  obtain ⟨top, rfl, below⟩ := covers last same
  exact ⟨max top number, rfl, Nat.le_trans below (Nat.le_max_left _ _)⟩

theorem Covers.raise_both {joint own : Option Nat} (covers : Covers joint own) (number : Nat) :
    Covers (some (highest joint number)) (some (highest own number)) := by
  rintro last same
  cases same
  refine ⟨_, rfl, ?_⟩
  cases own with
  | none =>
      cases joint with
      | none => exact Nat.le_refl number
      | some top => exact Nat.le_max_right top number
  | some last =>
      obtain ⟨top, rfl, below⟩ := covers last rfl
      exact Nat.max_le.mpr
        ⟨Nat.le_trans below (Nat.le_max_left _ _), Nat.le_max_right _ _⟩

theorem gap_eq_zero_of_follows {last : Option Nat} {number : Nat} (follows : Follows last number) :
    gap last number = 0 := by
  cases last with
  | none => rfl
  | some before =>
      rw [follows before rfl]
      simp [gap]

/-- The two counters count the same exactly when the number tallies. -/
theorem gap_eq_gap_iff {joint own : Option Nat} {number : Nat} (covers : Covers joint own) :
    gap joint number = gap own number ↔ Tallies joint own number := by
  unfold Tallies
  constructor
  · intro same
    cases own with
    | none =>
        exact .inr ⟨same, rfl⟩
    | some last =>
        obtain ⟨top, rfl, below⟩ := covers last rfl
        rw [Option.some.injEq]
        simp only [gap] at same ⊢
        omega
  · rintro (rfl | ⟨joint, own⟩)
    · rfl
    · rw [joint, own]

/-- For a stream that leaves nothing out, joining is a matter of the joint counter. -/
theorem tallies_iff_of_follows {joint own : Option Nat} {number : Nat} (covers : Covers joint own)
    (follows : Follows own number) : Tallies joint own number ↔ gap joint number = 0 := by
  rw [← gap_eq_gap_iff covers, gap_eq_zero_of_follows follows]

section Sums

variable {Key Value : Type} [DecidableEq Key] (weight : Value → Nat)

/-- The sum of the weights of the values. -/
def sumOf (map : HashMap Key Value) : Nat :=
  (map.values.map weight).sum

theorem entries_remove (map : HashMap Key Value) (key : Key) :
    (map.remove key).entries = map.entries.kerase key :=
  rfl

theorem sumOf_remove (map : HashMap Key Value) (key : Key) :
    sumOf weight (map.remove key) + ((map.get? key).map weight).getD 0 = sumOf weight map := by
  unfold sumOf HashMap.values HashMap.iter
  by_cases present : key ∈ map.entries.keys
  · obtain ⟨value, before, after, absent, split, erased⟩ := List.exists_of_kerase present
    have found : map.get? key = some value :=
      HashMap.mem_iter.mp (List.mem_map.mpr ⟨⟨key, value⟩, by simp [split], rfl⟩)
    rw [entries_remove, erased, found, split]
    simp only [List.map_append, List.map_cons, List.sum_append, List.sum_cons, Option.map_some,
      Option.getD_some]
    omega
  · have missing : map.get? key = none := List.dlookup_eq_none.mpr present
    rw [entries_remove, List.kerase_of_notMem_keys present, missing]
    rfl

theorem sumOf_put (map : HashMap Key Value) (key : Key) (value : Value) :
    sumOf weight (map.put key value) + ((map.get? key).map weight).getD 0 =
      sumOf weight map + weight value := by
  rw [← sumOf_remove weight map key]
  unfold sumOf HashMap.values HashMap.iter
  rw [entries_remove, HashMap.put, AList.entries_insert]
  simp only [List.map_cons, List.sum_cons]
  omega

end Sums

end Kaigi.Metering
