/-!
# Ranges of code points

A class of characters is kept as a list of inclusive ranges of code points.
-/

namespace BuildSpec.Text

/-- The first and the last code point of a range. -/
abbrev CodeRange := Nat × Nat

/-- A character lies in one of the ranges. -/
def inRanges (ranges : List CodeRange) (c : Char) : Bool :=
  ranges.any fun range => range.1 ≤ c.toNat && c.toNat ≤ range.2

end BuildSpec.Text
