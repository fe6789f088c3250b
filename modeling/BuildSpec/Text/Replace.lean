/-!
# Replacing in a text

Every occurrence of a text in another one gives way to a third one, from left to right.  What has
been replaced is not looked at again, so occurrences do not overlap.  A text that is sought has at
least one character.
-/

namespace BuildSpec.Text

/-- Replaces the text `first :: more` by `new`; so many characters in front belong to an occurrence
that has been replaced already, and are left out. -/
def replaceFrom (first : Char) (more new : List Char) : Nat → List Char → List Char
  | _, [] => []
  | left + 1, _ :: rest => replaceFrom first more new left rest
  | 0, c :: rest =>
    if (first :: more).isPrefixOf (c :: rest) then
      new ++ replaceFrom first more new more.length rest
    else c :: replaceFrom first more new 0 rest

/-- Replaces every occurrence of the text `first :: more` by `new`. -/
def replace (first : Char) (more new : List Char) (text : List Char) : List Char :=
  replaceFrom first more new 0 text

variable {first : Char} {more new : List Char}

/-- A character with which no occurrence begins stays. -/
theorem replace_cons_of_ne {c : Char} (h : c ≠ first) (rest : List Char) :
    replace first more new (c :: rest) = c :: replace first more new rest := by
  simp [replace, replaceFrom, Ne.symm h]

/-- A single character gives way wherever it stands. -/
theorem replace_singleton (first : Char) (new rest : List Char) :
    replace first [] new (first :: rest) = new ++ replace first [] new rest := by
  simp [replace, replaceFrom]

/-- Two characters give way as a whole. -/
theorem replace_pair (first second : Char) (new rest : List Char) :
    replace first [second] new (first :: second :: rest) =
      new ++ replace first [second] new rest := by
  simp [replace, replaceFrom]

/-- The first of two characters stays if the second one does not follow. -/
theorem replace_pair_of_ne {second c : Char} (h : c ≠ second) (rest : List Char) :
    replace first [second] new (first :: c :: rest) =
      first :: replace first [second] new (c :: rest) := by
  simp [replace, replaceFrom, Ne.symm h]

end BuildSpec.Text
