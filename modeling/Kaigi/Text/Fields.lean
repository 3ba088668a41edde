import Mathlib.Data.List.Induction

/-!
# Separated fields

A text that is written as fields behind separators can be read back from the right
as long as the fields do not contain the separator. Only the text in front of them
may be cut in more than one way. A split at the first separator finds the text in
front of it, as long as that text does not contain the separator.
-/

set_option autoImplicit false

namespace Kaigi.Text

variable {Symbol : Type}

/-- The fields, each behind a separator. -/
def trailed (separator : Symbol) (fields : List (List Symbol)) : List Symbol :=
  fields.flatMap (separator :: ·)

def Separated (separator : Symbol) (fields : List (List Symbol)) : Prop :=
  ∀ field ∈ fields, separator ∉ field

variable {separator : Symbol} {first second : List Symbol}

/-- Without the separator in the last fields, a text splits at its last separator. -/
theorem append_last_inj {field other : List Symbol} (clean : separator ∉ field)
    (otherClean : separator ∉ other)
    (same : first ++ separator :: field = second ++ separator :: other) :
    first = second ∧ field = other := by
  obtain ⟨between, rfl, tail⟩ | ⟨between, rfl, tail⟩ := List.append_eq_append_iff.mp same
  · cases between with
    | nil =>
        cases tail
        exact ⟨(List.append_nil _).symm, rfl⟩
    | cons symbol between =>
        cases tail
        exact absurd (List.mem_append_right between List.mem_cons_self) clean
  · cases between with
    | nil =>
        cases tail
        exact ⟨List.append_nil _, rfl⟩
    | cons symbol between =>
        cases tail
        exact absurd (List.mem_append_right between List.mem_cons_self) otherClean

/-- Without the separator in front of the first separator, a text splits there. -/
theorem append_first_inj {rest others : List Symbol} (clean : separator ∉ first)
    (otherClean : separator ∉ second)
    (same : first ++ separator :: rest = second ++ separator :: others) :
    first = second ∧ rest = others := by
  obtain ⟨between, rfl, tail⟩ | ⟨between, rfl, tail⟩ := List.append_eq_append_iff.mp same
  · cases between with
    | nil =>
        cases tail
        exact ⟨(List.append_nil _).symm, rfl⟩
    | cons symbol between =>
        cases tail
        exact absurd (List.mem_append_right first List.mem_cons_self) otherClean
  · cases between with
    | nil =>
        cases tail
        exact ⟨List.append_nil _, rfl⟩
    | cons symbol between =>
        cases tail
        exact absurd (List.mem_append_right second List.mem_cons_self) clean

theorem Separated.of_append {fields last : List (List Symbol)}
    (clean : Separated separator (fields ++ last)) :
    Separated separator fields ∧ Separated separator last :=
  List.forall_mem_append.mp clean

/-- The induction takes the fields off from the right. -/
theorem trailed_inj {fields others : List (List Symbol)} (clean : Separated separator fields)
    (otherClean : Separated separator others) (lengths : fields.length = others.length)
    (same : first ++ trailed separator fields = second ++ trailed separator others) :
    first = second ∧ fields = others := by
  induction fields using List.reverseRecOn generalizing others with
  | nil =>
      cases List.length_eq_zero_iff.mp lengths.symm
      exact ⟨List.append_cancel_right same, rfl⟩
  | append_singleton fields field ih =>
      cases others using List.reverseRecOn with
      | nil => simp at lengths
      | append_singleton others other =>
          obtain ⟨fieldsClean, fieldClean⟩ := clean.of_append
          obtain ⟨othersClean, otherClean⟩ := otherClean.of_append
          simp only [trailed, List.flatMap_append, List.flatMap_singleton, ← List.append_assoc]
            at same
          obtain ⟨fronts, rfl⟩ := append_last_inj (fieldClean _ (List.mem_singleton_self _))
            (otherClean _ (List.mem_singleton_self _)) same
          obtain ⟨rfl, rfl⟩ := ih fieldsClean othersClean (by simpa using lengths) fronts
          exact ⟨rfl, rfl⟩

/-- Texts that agree around a separator either agree in front of it, or the front of
one goes on behind the separator of the other. -/
theorem fronts_overlap {rest others : List Symbol}
    (same : first ++ separator :: rest = second ++ separator :: others) :
    first = second ∨ first ++ [separator] <+: second ∨ second ++ [separator] <+: first := by
  obtain ⟨between, rfl, tail⟩ | ⟨between, rfl, tail⟩ := List.append_eq_append_iff.mp same
  · cases between with
    | nil => exact .inl (List.append_nil _).symm
    | cons symbol between =>
        cases tail
        exact .inr (.inl ⟨between, by rw [List.append_assoc]; rfl⟩)
  · cases between with
    | nil => exact .inl (List.append_nil _)
    | cons symbol between =>
        cases tail
        exact .inr (.inr ⟨between, by rw [List.append_assoc]; rfl⟩)

theorem not_append_prefix (first : List Symbol) : ¬ first ++ [separator] <+: first := by
  intro front
  have shorter := front.length_le
  rw [List.length_append] at shorter
  exact absurd shorter (Nat.not_succ_le_self _)

/-! ### Fields that contain the separator -/

section Counting

variable [DecidableEq Symbol]

/-- Fronts with the same number of separators are cut at the same one. -/
theorem append_counted_inj {rest others : List Symbol}
    (counts : first.count separator = second.count separator)
    (same : first ++ separator :: rest = second ++ separator :: others) :
    first = second ∧ rest = others := by
  have fronts : first = second := by
    obtain fronts | ⟨between, rfl⟩ | ⟨between, rfl⟩ := fronts_overlap same
    · exact fronts
    · simp at counts
    · simp at counts
  subst fronts
  exact ⟨rfl, (List.cons.inj (List.append_cancel_left same)).2⟩

/-- A joined text and the number of separators in each field determine the fields. -/
theorem intercalate_counted_inj {fields others : List (List Symbol)}
    (counts : fields.map (·.count separator) = others.map (·.count separator))
    (same : [separator].intercalate fields = [separator].intercalate others) :
    fields = others := by
  induction fields generalizing others with
  | nil =>
      rw [List.map_nil] at counts
      exact (List.map_eq_nil_iff.mp counts.symm).symm
  | cons field fields ih =>
      cases others with
      | nil => cases counts
      | cons other others =>
          obtain ⟨here, rest⟩ := List.cons.inj counts
          cases fields with
          | nil =>
              rw [List.map_nil] at rest
              cases List.map_eq_nil_iff.mp rest.symm
              rw [List.intercalate_singleton, List.intercalate_singleton] at same
              rw [same]
          | cons next fields =>
              cases others with
              | nil => cases rest
              | cons following others =>
                  rw [List.intercalate_cons_cons, List.intercalate_cons_cons,
                    List.append_assoc, List.append_assoc] at same
                  obtain ⟨fronts, tails⟩ := append_counted_inj here same
                  rw [fronts, ih rest tails]

end Counting

/-! ### Splitting at the first separator -/

section Splitting

variable [DecidableEq Symbol]

/-- The text in front of the first separator, and the text behind it. -/
def splitOnce (separator : Symbol) : List Symbol → Option (List Symbol × List Symbol)
  | [] => none
  | symbol :: rest =>
      if symbol = separator then some ([], rest)
      else (splitOnce separator rest).map fun parts => (symbol :: parts.1, parts.2)

theorem splitOnce_append {rest : List Symbol} (clean : separator ∉ first) :
    splitOnce separator (first ++ separator :: rest) = some (first, rest) := by
  induction first with
  | nil => exact if_pos rfl
  | cons symbol first ih =>
      have other : symbol ≠ separator := fun same => clean (same ▸ List.mem_cons_self)
      have tail := ih fun member => clean (List.mem_cons_of_mem symbol member)
      rw [List.cons_append, splitOnce, if_neg other, tail]
      rfl

end Splitting

/-- Joined fields add nothing but the separator. -/
theorem mem_intercalate {fields : List (List Symbol)} {symbol : Symbol}
    (member : symbol ∈ [separator].intercalate fields) :
    symbol = separator ∨ ∃ field ∈ fields, symbol ∈ field := by
  induction fields with
  | nil => cases member
  | cons field fields ih =>
      cases fields with
      | nil =>
          rw [List.intercalate_singleton] at member
          exact .inr ⟨field, List.mem_singleton_self field, member⟩
      | cons other fields =>
          rw [List.intercalate_cons_cons, List.append_assoc, List.mem_append] at member
          obtain member | member := member
          · exact .inr ⟨field, List.mem_cons_self, member⟩
          · obtain same | member := List.mem_append.mp member
            · exact .inl (List.mem_singleton.mp same)
            · obtain same | ⟨found, inside, member⟩ := ih member
              · exact .inl same
              · exact .inr ⟨found, List.mem_cons_of_mem field inside, member⟩

end Kaigi.Text
