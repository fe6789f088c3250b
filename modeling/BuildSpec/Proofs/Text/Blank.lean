import BuildSpec.Text.Blank
import Mathlib.Data.List.DropRight

/-!
# Texts without the blanks around them

Trimming takes the longest runs of a class of characters off the two ends of a text.  What such
characters are put around a text is lost again:

* `trim_append` — a text with more of them around it is trimmed to the same;
* `trim_of_ends` — a text with other characters at its ends stays as it is.
-/

namespace BuildSpec.Text

variable {p : Char → Bool}

theorem trim_eq_rdropWhile (s : List Char) : trim p s = (s.dropWhile p).rdropWhile p := rfl

theorem rdropWhile_append_of_pos {after : List Char} (h : ∀ c ∈ after, p c = true) (s : List Char) :
    (s ++ after).rdropWhile p = s.rdropWhile p := by
  rw [List.rdropWhile, List.reverse_append,
    List.dropWhile_append_of_pos fun c hc => h c (List.mem_reverse.mp hc), List.rdropWhile]

/-- **What is put around a text is taken off again.** -/
theorem trim_append {before after : List Char} (hbefore : ∀ c ∈ before, p c = true)
    (hafter : ∀ c ∈ after, p c = true) (s : List Char) :
    trim p (before ++ s ++ after) = trim p s := by
  rw [trim_eq_rdropWhile, trim_eq_rdropWhile, List.append_assoc,
    List.dropWhile_append_of_pos hbefore, List.dropWhile_append]
  split
  · next hnone =>
      -- nothing is left of the text, nor of what stands behind it
      rw [List.isEmpty_iff.mp hnone, List.dropWhile_eq_nil_iff.mpr hafter]
  · exact rdropWhile_append_of_pos hafter _

/-- A text stays as it is if neither of its ends is in the class. -/
theorem trim_of_ends {s : List Char} (hfirst : ∀ c ∈ s.head?, p c = false)
    (hlast : ∀ c ∈ s.getLast?, p c = false) : trim p s = s := by
  have hfront : s.dropWhile p = s := by
    cases s with
    | nil => rfl
    | cons c rest => simp [hfirst c rfl]
  rw [trim_eq_rdropWhile, hfront, List.rdropWhile_eq_self_iff]
  intro hne
  simp [hlast _ (List.getLast?_eq_some_getLast hne)]

end BuildSpec.Text
