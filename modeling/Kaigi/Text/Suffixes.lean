import Mathlib.Data.List.Infix

/-!
# Words at the end of a text

A text that ends in one of several words is cut in only one way when none of the words is
a suffix of another. Fields of a fixed length in front of the word come off in the same way.
-/

set_option autoImplicit false

namespace Kaigi.Text

variable {Symbol Key : Type} {first second : List Symbol}

/-- None of the words is a suffix of another. -/
def SuffixFree (word : Key → List Symbol) : Prop :=
  ∀ key other, word key <:+ word other → key = other

theorem SuffixFree.append_inj {word : Key → List Symbol} (free : SuffixFree word)
    {key other : Key} (same : first ++ word key = second ++ word other) :
    first = second ∧ key = other := by
  have ends : word key <:+ second ++ word other := same ▸ List.suffix_append first (word key)
  have named : key = other := by
    obtain short | long := List.suffix_or_suffix_of_suffix ends (List.suffix_append _ _)
    · exact free key other short
    · exact (free other key long).symm
  subst named
  exact ⟨List.append_cancel_right same, rfl⟩

/-- A field of a fixed length comes off in front of the word. -/
theorem SuffixFree.field_inj {word : Key → List Symbol} (free : SuffixFree word)
    {field others : List Symbol} {key other : Key} (lengths : field.length = others.length)
    (same : first ++ field ++ word key = second ++ others ++ word other) :
    first = second ∧ field = others ∧ key = other := by
  obtain ⟨fronts, named⟩ := free.append_inj same
  obtain ⟨rest, fields⟩ := List.append_inj' fronts lengths
  exact ⟨rest, fields, named⟩

end Kaigi.Text
