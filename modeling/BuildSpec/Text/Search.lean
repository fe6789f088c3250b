/-!
# Searching a text

A text occurs in another if it is a contiguous part of it; the empty text occurs everywhere.  The
main statement is `occursIn_iff`, which ties the search to the relation of the list library.
-/

namespace BuildSpec.Text

/-- Whether `needle` is a contiguous part of the second text. -/
def occursIn (needle : List Char) : List Char → Bool
  | [] => needle.isEmpty
  | c :: rest => needle.isPrefixOf (c :: rest) || occursIn needle rest

/-- The search succeeds exactly on the contiguous parts of a text. -/
theorem occursIn_iff (needle : List Char) (text : List Char) :
    occursIn needle text = true ↔ needle <:+: text := by
  induction text with
  | nil => simp [occursIn]
  | cons c rest ih =>
    rw [occursIn, Bool.or_eq_true, ih, List.isPrefixOf_iff_prefix, List.infix_cons_iff]

/-- Cuts a text at each separator, which belongs to no part; there is always at least one part. -/
def splitAt (separator : Char) : List Char → List (List Char)
  | [] => [[]]
  | c :: rest =>
    if c = separator then [] :: splitAt separator rest
    else
      match splitAt separator rest with
      | part :: parts => (c :: part) :: parts
      | [] => [[c]]

/-- The parts of a text between separators. -/
def parts (separator : Char) (s : String) : List String :=
  (splitAt separator s.toList).map String.ofList

end BuildSpec.Text
