import BuildSpec.Text.Printable

/-!
# Quoted text

A text inside a message stands between quotes, with the characters that would be misread written
as escapes.  The quotes are single ones, unless the text holds a single quote and no double one.
Unprintable characters take the shortest of the hexadecimal forms `\x`, `\u` and `\U`, of two, four
and eight digits.
-/

namespace BuildSpec.Text

/-- A number in hexadecimal, filled up with zeros to `width` digits. -/
def hexadecimal (width n : Nat) : List Char :=
  (Nat.toDigits 16 n).leftpad width '0'

/-- The quote that a text stands between. -/
def quoteMark (s : List Char) : Char :=
  if s.contains '\'' && !s.contains '"' then '"' else '\''

/-- A character inside quotes. -/
def escapeChar (mark c : Char) : List Char :=
  if c = mark ∨ c = '\\' then ['\\', c]
  else if c = '\n' then ['\\', 'n']
  else if c = '\r' then ['\\', 'r']
  else if c = '\t' then ['\\', 't']
  else if isPrintable c then [c]
  else if c.toNat ≤ 0xFF then '\\' :: 'x' :: hexadecimal 2 c.toNat
  else if c.toNat ≤ 0xFFFF then '\\' :: 'u' :: hexadecimal 4 c.toNat
  else '\\' :: 'U' :: hexadecimal 8 c.toNat

/-- A text between quotes. -/
def quotedChars (s : List Char) : List Char :=
  let mark := quoteMark s
  mark :: (s.flatMap (escapeChar mark) ++ [mark])

/-- A text between quotes. -/
def quoted (s : String) : String := String.ofList (quotedChars s.toList)

/-- A byte inside quotes: a character if it is printable ASCII, else two hexadecimal digits. -/
def escapeByte (mark : Char) (b : UInt8) : List Char :=
  let c := Char.ofNat b.toNat
  if c = mark ∨ c = '\\' then ['\\', c]
  else if c = '\n' then ['\\', 'n']
  else if c = '\r' then ['\\', 'r']
  else if c = '\t' then ['\\', 't']
  else if 0x20 ≤ c.toNat ∧ c.toNat < 0x7F then [c]
  else '\\' :: 'x' :: hexadecimal 2 b.toNat

/-- A row of bytes between quotes, marked by a leading `b`. -/
def quotedBytes (bytes : List UInt8) : String :=
  let mark := quoteMark (bytes.map fun b => Char.ofNat b.toNat)
  String.ofList ('b' :: mark :: (bytes.flatMap (escapeByte mark) ++ [mark]))

end BuildSpec.Text
