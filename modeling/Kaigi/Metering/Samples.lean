import Mathlib.Algebra.Order.Group.Nat
import Mathlib.Data.List.Chain

/-!
# Samples of a clock

A meter that is read at the samples of a clock adds up the rises between them.
If the clock goes back, it may count the same time twice: the rises add up to
the way to the highest sample exactly when no rise follows a fall.
-/

set_option autoImplicit false

namespace Kaigi.Metering

/-- The sum of the rises from each sample to the next. -/
def ascent : Nat → List Nat → Nat
  | _, [] => 0
  | last, now :: rest => (now - last) + ascent now rest

/-- The highest sample. -/
def peak : Nat → List Nat → Nat
  | start, [] => start
  | start, now :: rest => max start (peak now rest)

/-- No rise follows a fall. -/
def RisesThenFalls : Nat → List Nat → Prop
  | _, [] => True
  | last, now :: rest =>
      (last ≤ now ∧ RisesThenFalls now rest) ∨ (last :: now :: rest).IsChain (· ≥ ·)

theorem le_peak (start : Nat) (samples : List Nat) : start ≤ peak start samples := by
  cases samples with
  | nil => exact Nat.le_refl _
  | cons now rest => exact le_max_left _ _

theorem peak_sub_le_ascent (start : Nat) (samples : List Nat) :
    peak start samples - start ≤ ascent start samples := by
  induction samples generalizing start with
  | nil => simp [peak]
  | cons now rest ih =>
      have later := ih now
      have above := le_peak now rest
      simp only [peak, ascent]
      omega

theorem ascent_eq_zero_iff (start : Nat) (samples : List Nat) :
    ascent start samples = 0 ↔ (start :: samples).IsChain (· ≥ ·) := by
  induction samples generalizing start with
  | nil => simp [ascent]
  | cons now rest ih =>
      rw [List.isChain_cons_cons, ← ih now]
      simp only [ascent]
      omega

/-- Samples that only fall have their peak at the start. -/
theorem peak_of_falling {start : Nat} {samples : List Nat}
    (falls : (start :: samples).IsChain (· ≥ ·)) : peak start samples = start := by
  have bounded := peak_sub_le_ascent start samples
  have above := le_peak start samples
  rw [(ascent_eq_zero_iff start samples).mpr falls] at bounded
  omega

theorem ascent_eq_peak_iff (start : Nat) (samples : List Nat) :
    ascent start samples = peak start samples - start ↔ RisesThenFalls start samples := by
  induction samples generalizing start with
  | nil => simp [ascent, peak, RisesThenFalls]
  | cons now rest ih =>
      have bounded := peak_sub_le_ascent now rest
      have above := le_peak now rest
      constructor
      · intro exact
        rcases Nat.lt_or_ge now start with falls | rises
        · refine .inr ((ascent_eq_zero_iff start (now :: rest)).mp ?_)
          simp only [ascent, peak] at exact ⊢
          omega
        · refine .inl ⟨rises, (ih now).mp ?_⟩
          simp only [ascent, peak] at exact
          omega
      · rintro (⟨rises, later⟩ | falls)
        · have exact := (ih now).mpr later
          simp only [ascent, peak]
          omega
        · rw [(ascent_eq_zero_iff _ _).mpr falls, peak_of_falling falls]
          omega

theorem risesThenFalls_of_rising {start : Nat} {samples : List Nat}
    (rises : (start :: samples).IsChain (· ≤ ·)) : RisesThenFalls start samples := by
  induction samples generalizing start with
  | nil => trivial
  | cons now rest ih =>
      obtain ⟨later, rest⟩ := List.isChain_cons_cons.mp rises
      exact .inl ⟨later, ih rest⟩

theorem peak_le {start most : Nat} {samples : List Nat} (first : start ≤ most)
    (bounded : ∀ now ∈ samples, now ≤ most) : peak start samples ≤ most := by
  induction samples generalizing start with
  | nil => exact first
  | cons now rest ih =>
      refine max_le first (ih (bounded now List.mem_cons_self) fun later member => ?_)
      exact bounded later (List.mem_cons_of_mem _ member)

/-- What accrues between the samples, each of them with the rate up to it. -/
def accrued : Nat → List (Nat × Nat) → Nat
  | _, [] => 0
  | last, (rate, now) :: rest => rate * (now - last) + accrued now rest

theorem accrued_le_ascent {most : Nat} (start : Nat) {samples : List (Nat × Nat)}
    (bounded : ∀ sample ∈ samples, sample.1 ≤ most) :
    accrued start samples ≤ most * ascent start (samples.map Prod.snd) := by
  induction samples generalizing start with
  | nil => exact Nat.zero_le _
  | cons sample rest ih =>
      obtain ⟨rate, now⟩ := sample
      have first : rate ≤ most := bounded (rate, now) List.mem_cons_self
      have later := ih now fun sample member => bounded sample (List.mem_cons_of_mem _ member)
      simp only [accrued, List.map_cons, ascent, Nat.mul_add]
      exact Nat.add_le_add (Nat.mul_le_mul_right _ first) later

/-- On a clock that does not go back, no more accrues than at the highest rate in all the
time that the clock can show. -/
theorem accrued_le {start mostRate mostClock : Nat} {samples : List (Nat × Nat)}
    (rises : (start :: samples.map Prod.snd).IsChain (· ≤ ·)) (first : start ≤ mostClock)
    (rates : ∀ sample ∈ samples, sample.1 ≤ mostRate)
    (clocks : ∀ sample ∈ samples, sample.2 ≤ mostClock) :
    accrued start samples ≤ mostRate * mostClock := by
  refine (accrued_le_ascent start rates).trans (Nat.mul_le_mul_left _ ?_)
  rw [(ascent_eq_peak_iff start _).mpr (risesThenFalls_of_rising rises)]
  refine (Nat.sub_le _ _).trans (peak_le first fun now member => ?_)
  obtain ⟨sample, present, rfl⟩ := List.mem_map.mp member
  exact clocks sample present

end Kaigi.Metering
