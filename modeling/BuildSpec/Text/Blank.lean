import BuildSpec.Text.Range

/-!
# Blank characters

The white space that surrounds a number or a version and does not belong to it.  The class is that
of Unicode together with the four separators of ASCII; a zero-width space and a byte order mark are
not blank.  Around a number the four separators do not count as blank.
-/

namespace BuildSpec.Text

/-- The blank code points. -/
def blankRanges : List CodeRange :=
  [(0x09, 0x0D), (0x1C, 0x20), (0x85, 0x85), (0xA0, 0xA0), (0x1680, 0x1680), (0x2000, 0x200A),
   (0x2028, 0x2029), (0x202F, 0x202F), (0x205F, 0x205F), (0x3000, 0x3000)]

/-- White space in any script. -/
def isBlank (c : Char) : Bool := inRanges blankRanges c

/-- The separators of files, groups, records and units in ASCII. -/
def isSeparator (c : Char) : Bool := inRanges [(0x1C, 0x1F)] c

/-- White space that may surround a number. -/
def isNumberBlank (c : Char) : Bool := isBlank c && !isSeparator c

/-- A text without the characters of a class at its two ends. -/
def trim (p : Char → Bool) (s : List Char) : List Char :=
  ((s.dropWhile p).reverse.dropWhile p).reverse

/-- A text without the blanks at its two ends. -/
def trimBlanks (s : List Char) : List Char := trim isBlank s

end BuildSpec.Text
