import BuildSpec.Text.Case
import Mathlib.Data.List.Basic

/-!
# Lower case in pieces

The lower case of a text is made character by character, and all characters but one have a lower
case of their own.  The capital sigma looks around: it has another form where it ends a word.  So a
part of a text has the same lower case on its own as inside the text, unless one of its sigmas ends
a word in one of the two only:

* `lowerAfter_append` — a text is put into lower case part by part, if the parts know their
  surroundings;
* `lowerBetween_eq_iff` — surroundings make a difference to capital sigmas only;
* `lower_infix` — a part whose sigmas keep their form is found again in lower case.
-/

namespace BuildSpec.Text

/-- The lower case of a character between the (reversed) text before it and the text after it. -/
def lowerAt (before : List Char) (c : Char) (after : List Char) : List Char :=
  if c = 'Σ' then [lowerSigma before after]
  else if c = 'İ' then ['i', '\u0307']
  else [lowerChar c]

/-- The lower case of a text between the (reversed) text before it and the text after it. -/
def lowerBetween (before : List Char) : List Char → List Char → List Char
  | [], _ => []
  | c :: rest, after => lowerAt before c (rest ++ after) ++ lowerBetween (c :: before) rest after

/-- A word ends between two texts: the nearest character before that case does not ignore is cased,
the nearest one after is not. -/
def EndsWord (before after : List Char) : Prop :=
  nearestIsCased before.reverse = true ∧ nearestIsCased after = false

/-- Between two texts, each capital sigma of a text ends a word exactly if it does so in the text
itself. -/
def SigmasKeep (before s after : List Char) : Prop :=
  ∀ front back, s = front ++ 'Σ' :: back →
    (EndsWord front back ↔ EndsWord (before ++ front) (back ++ after))

/-- Without capital sigmas there are none that could change. -/
theorem sigmasKeep_of_notMem {s : List Char} (h : 'Σ' ∉ s) (before after : List Char) :
    SigmasKeep before s after := by
  rintro front back rfl
  simp at h

theorem lowerAfter_cons (before : List Char) (c : Char) (rest : List Char) :
    lowerAfter before (c :: rest) = lowerAt before c rest ++ lowerAfter (c :: before) rest := by
  rw [lowerAfter.eq_def]
  unfold lowerAt
  split <;> simp_all

/-- A text is put into lower case part by part. -/
theorem lowerAfter_append (before s after : List Char) :
    lowerAfter before (s ++ after) =
      lowerBetween before s after ++ lowerAfter (s.reverse ++ before) after := by
  induction s generalizing before with
  | nil => rfl
  | cons c rest ih =>
      rw [List.cons_append, lowerAfter_cons, ih, lowerBetween]
      simp

theorem lowerBetween_nil (before s : List Char) :
    lowerBetween before s [] = lowerAfter before s := by
  have h := lowerAfter_append before s []
  rw [List.append_nil] at h
  rw [h, lowerAfter, List.append_nil]

theorem length_lowerAt (before before' after after' : List Char) (c : Char) :
    (lowerAt before c after).length = (lowerAt before' c after').length := by
  unfold lowerAt
  split
  · rfl
  · split <;> rfl

/-- Only a capital sigma looks at what is around it. -/
theorem lowerAt_eq_iff {before before' after after' : List Char} {c : Char} :
    lowerAt before c after = lowerAt before' c after' ↔
      (c = 'Σ' → lowerSigma before after = lowerSigma before' after') := by
  unfold lowerAt
  by_cases hc : c = 'Σ'
  · simp [hc]
  · simp [hc]

theorem lowerSigma_eq_iff {before before' after after' : List Char} :
    lowerSigma before.reverse after = lowerSigma before'.reverse after' ↔
      (EndsWord before after ↔ EndsWord before' after') := by
  have hform : ∀ x y : List Char,
      lowerSigma x.reverse y = 'ς' ↔ EndsWord x y := by
    intro x y
    unfold lowerSigma EndsWord
    split <;> simp_all
  have hforms : ∀ x y : List Char, lowerSigma x y = 'ς' ∨ lowerSigma x y = 'σ' := by
    intro x y
    unfold lowerSigma
    split <;> simp
  rw [← hform, ← hform]
  rcases hforms before.reverse after with h | h <;>
    rcases hforms before'.reverse after' with h' | h' <;> simp [h, h']

/-- **Surroundings make a difference to capital sigmas only.** -/
theorem lowerBetween_eq_iff {before before' s after after' : List Char} :
    lowerBetween before.reverse s after = lowerBetween before'.reverse s after' ↔
      ∀ front back, s = front ++ 'Σ' :: back →
        (EndsWord (before ++ front) (back ++ after) ↔
          EndsWord (before' ++ front) (back ++ after')) := by
  induction s generalizing before before' with
  | nil => simp [lowerBetween]
  | cons c rest ih =>
      have hsnoc (b : List Char) : c :: b.reverse = (b ++ [c]).reverse := by simp
      have hlength := length_lowerAt before.reverse before'.reverse (rest ++ after)
        (rest ++ after') c
      rw [lowerBetween, lowerBetween, hsnoc, hsnoc]
      constructor
      · intro h front back hs
        obtain ⟨hfirst, hrest⟩ := List.append_inj h hlength
        cases front with
        | nil =>
            obtain ⟨rfl, rfl⟩ := List.cons.inj hs
            simpa using lowerSigma_eq_iff.mp (lowerAt_eq_iff.mp hfirst rfl)
        | cons c' front =>
            obtain ⟨rfl, htail⟩ := List.cons.inj hs
            simpa using ih.mp hrest front back htail
      · intro h
        have hfirst : lowerAt before.reverse c (rest ++ after) =
            lowerAt before'.reverse c (rest ++ after') := by
          refine lowerAt_eq_iff.mpr fun hc => lowerSigma_eq_iff.mpr ?_
          simpa using h [] rest (by rw [hc]; rfl)
        have hrest : lowerBetween (before ++ [c]).reverse rest after =
            lowerBetween (before' ++ [c]).reverse rest after' := by
          refine ih.mpr fun front back hs => ?_
          simpa using h (c :: front) back (by rw [hs]; rfl)
        rw [hfirst, hrest]

/-- The lower case of a part of a text is its own lower case if, and only if, its sigmas keep their
form. -/
theorem lowerBetween_eq_lowerAfter_iff {before s after : List Char} :
    lowerBetween before.reverse s after = lowerAfter [] s ↔ SigmasKeep before s after := by
  have hown : lowerAfter [] s = lowerBetween [].reverse s [] := (lowerBetween_nil [] s).symm
  rw [hown, eq_comm, lowerBetween_eq_iff]
  simp [SigmasKeep]

/-- **A part whose sigmas keep their form is found again in lower case.** -/
theorem lower_infix {before s after : List Char} (h : SigmasKeep before s after) :
    lowerAfter [] s <:+: lowerAfter [] (before ++ s ++ after) := by
  rw [List.append_assoc, lowerAfter_append, lowerAfter_append, List.append_nil,
    lowerBetween_eq_lowerAfter_iff.mpr h, ← List.append_assoc]
  exact List.infix_append _ _ _

end BuildSpec.Text
