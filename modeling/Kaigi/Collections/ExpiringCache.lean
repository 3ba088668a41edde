import Kaigi.Collections.HashMap

/-!
# A cache of keys that expire

The cache admits a key that it does not remember and remembers it until its expiry.
An attempt drops what has expired at its time, whether it is admitted or not.
-/

set_option autoImplicit false

namespace Kaigi.Collections.ExpiringCache

variable {Key Time : Type} [DecidableEq Key] [LT Time] [DecidableLT Time]

/-- What has not expired. -/
def live (now : Time) (cache : HashMap Key Time) : HashMap Key Time :=
  cache.retain fun _ expiry => now < expiry

inductive Refusal where
  | remembered
  | full

structure Attempt (Key Time : Type) where
  now : Time
  key : Key
  expiry : Time

/-- Admit a key for the first time, as long as there is room. -/
def enter (capacity : Nat) (attempt : Attempt Key Time) (cache : HashMap Key Time) :
    Except Refusal Unit × HashMap Key Time :=
  let kept := live attempt.now cache
  if kept.containsKey attempt.key then (.error .remembered, kept)
  else if capacity ≤ kept.keys.length then (.error .full, kept)
  else (.ok (), kept.put attempt.key attempt.expiry)

/-- The cache behind some attempts, the latest of them first. -/
def after (capacity : Nat) : List (Attempt Key Time) → HashMap Key Time
  | [] => ∅
  | attempt :: earlier => (enter capacity attempt (after capacity earlier)).2

def Admitted (capacity : Nat) (attempt : Attempt Key Time)
    (earlier : List (Attempt Key Time)) : Prop :=
  (enter capacity attempt (after capacity earlier)).1 = .ok ()

variable {capacity : Nat} {attempt first second : Attempt Key Time}
  {middle older : List (Attempt Key Time)} {cache : HashMap Key Time}

theorem get?_live_of_lt {now expiry : Time} {key : Key} (found : cache.get? key = some expiry)
    (unexpired : now < expiry) : (live now cache).get? key = some expiry := by
  rw [live, HashMap.get?_retain, found, Option.filter_some]
  exact if_pos (decide_eq_true unexpired)

/-- Dropping what has expired takes nothing else out and puts nothing in. -/
theorem get?_live (now : Time) (cache : HashMap Key Time) (key : Key) :
    (live now cache).get? key = cache.get? key ∨
    (live now cache).get? key = none ∧
      ∃ expiry, cache.get? key = some expiry ∧ ¬ now < expiry := by
  rw [live, HashMap.get?_retain]
  cases found : cache.get? key with
  | none => exact .inl rfl
  | some expiry =>
      by_cases unexpired : now < expiry
      · exact .inl (if_pos (decide_eq_true unexpired))
      · exact .inr ⟨by simp [unexpired], expiry, rfl, unexpired⟩

theorem admit_cases (capacity : Nat) (attempt : Attempt Key Time) (cache : HashMap Key Time) :
    (∃ refusal, enter capacity attempt cache = (.error refusal, live attempt.now cache)) ∨
    (live attempt.now cache).containsKey attempt.key = false ∧
      (live attempt.now cache).keys.length < capacity ∧
      enter capacity attempt cache =
        (.ok (), (live attempt.now cache).put attempt.key attempt.expiry) := by
  unfold enter
  by_cases remembered : (live attempt.now cache).containsKey attempt.key = true
  · exact .inl ⟨.remembered, if_pos remembered⟩
  · by_cases full : capacity ≤ (live attempt.now cache).keys.length
    · exact .inl ⟨.full, (if_neg remembered).trans (if_pos full)⟩
    · exact .inr ⟨Bool.eq_false_iff.mpr remembered, Nat.lt_of_not_le full,
        (if_neg remembered).trans (if_neg full)⟩

/-- What has not expired stays, whatever else is attempted. -/
theorem get?_admit {key : Key} {expiry : Time} (found : cache.get? key = some expiry)
    (unexpired : attempt.now < expiry) :
    (enter capacity attempt cache).2.get? key = some expiry := by
  have kept := get?_live_of_lt found unexpired
  obtain ⟨refusal, refused⟩ | ⟨absent, _, admitted⟩ := admit_cases capacity attempt cache
  · rw [refused]
    exact kept
  · have other : key ≠ attempt.key := by
      intro same
      rw [HashMap.containsKey, ← same, kept] at absent
      cases absent
    rw [admitted, HashMap.get?_put, if_neg other]
    exact kept

theorem length_keys_admit (bounded : cache.keys.length ≤ capacity) :
    (enter capacity attempt cache).2.keys.length ≤ capacity := by
  obtain ⟨refusal, refused⟩ | ⟨absent, room, admitted⟩ := admit_cases capacity attempt cache
  · rw [refused]
    exact Nat.le_trans (HashMap.length_keys_retain_le _ _) bounded
  · rw [admitted, HashMap.length_keys_put attempt.expiry absent]
    exact room

theorem length_keys_after (attempts : List (Attempt Key Time)) :
    (after capacity attempts).keys.length ≤ capacity := by
  induction attempts with
  | nil => exact Nat.zero_le _
  | cons attempt earlier ih => exact length_keys_admit ih

/-- The induction goes over the attempts since the key was admitted. -/
theorem get?_after (admitted : Admitted capacity first older)
    (unexpired : ∀ attempt ∈ middle, attempt.now < first.expiry) :
    (after capacity (middle ++ first :: older)).get? first.key = some first.expiry := by
  induction middle with
  | nil =>
      obtain ⟨refusal, refused⟩ | ⟨_, _, entered⟩ :=
        admit_cases capacity first (after capacity older)
      · rw [Admitted, refused] at admitted
        cases admitted
      · rw [List.nil_append, after, entered, HashMap.get?_put, if_pos rfl]
  | cons attempt middle ih =>
      exact get?_admit (ih fun past member => unexpired past (List.mem_cons_of_mem _ member))
        (unexpired attempt List.mem_cons_self)

section Order

variable [LE Time] [Std.IsLinearOrder Time] [Std.LawfulOrderLT Time]

/-- A key is admitted again when its first admission has expired. -/
theorem expired_of_admitted_again (admitted : Admitted capacity first older)
    (again : Admitted capacity second (middle ++ first :: older)) (same : first.key = second.key)
    (ordered : ∀ attempt ∈ middle, attempt.now ≤ second.now) : first.expiry ≤ second.now := by
  refine Std.not_lt.mp fun unexpired => ?_
  have found := get?_after admitted fun attempt member =>
    Std.lt_of_le_of_lt (ordered attempt member) unexpired
  have kept := get?_live_of_lt found unexpired
  obtain ⟨refusal, refused⟩ | ⟨absent, _, _⟩ :=
    admit_cases capacity second (after capacity (middle ++ first :: older))
  · rw [Admitted, refused] at again
    cases again
  · rw [HashMap.containsKey, ← same, kept] at absent
    cases absent

end Order

end Kaigi.Collections.ExpiringCache
