import BuildSpec.Text.Quoted

/-!
# JSON documents

Documents are written over several lines, one member or item a line, each level indented by two
blanks.  All characters are ASCII: others are written as escapes of four hexadecimal digits, those
beyond the first 65536 as two escapes.
-/

namespace BuildSpec.Text

/-- A JSON document, as far as a report needs it. -/
inductive Json where
  | number (n : Nat)
  | text (s : String)
  | array (items : List Json)
  | object (members : List (String × Json))
  deriving Inhabited

namespace Json

/-- A 16-bit unit as an escape. -/
def unitEscape (n : Nat) : List Char := '\\' :: 'u' :: hexadecimal 4 n

/-- The escape of a character that is not written as it is. -/
def codeEscape (n : Nat) : List Char :=
  if n ≤ 0xFFFF then unitEscape n
  else unitEscape (0xD800 + (n - 0x10000) / 0x400) ++ unitEscape (0xDC00 + (n - 0x10000) % 0x400)

/-- A character inside quotes. -/
def escape (c : Char) : List Char :=
  if c = '"' ∨ c = '\\' then ['\\', c]
  else if c = '\n' then ['\\', 'n']
  else if c = '\r' then ['\\', 'r']
  else if c = '\t' then ['\\', 't']
  else if c = '\x08' then ['\\', 'b']
  else if c = '\x0c' then ['\\', 'f']
  else if ' ' ≤ c ∧ c ≤ '~' then [c]
  else codeEscape c.toNat

/-- A text between quotes. -/
def quote (s : List Char) : List Char := '"' :: s.flatMap escape ++ ['"']

/-- The start of a line at a level. -/
def lineStart (level : Nat) : List Char := '\n' :: List.replicate (2 * level) ' '

mutual

/-- A document as text, where it stands at a level. -/
def write (level : Nat) : Json → List Char
  | number n => Nat.toDigits 10 n
  | text s => quote s.toList
  | array [] => ['[', ']']
  | array (item :: rest) =>
    '[' :: lineStart (level + 1) ++ item.write (level + 1) ++ writeItems (level + 1) rest
      ++ lineStart level ++ [']']
  | object [] => ['\x7b', '\x7d']
  | object ((name, value) :: rest) =>
    '\x7b' :: lineStart (level + 1) ++ quote name.toList ++ [':', ' '] ++ value.write (level + 1)
      ++ writeMembers (level + 1) rest ++ lineStart level ++ ['\x7d']

/-- The items behind the first one. -/
def writeItems (level : Nat) : List Json → List Char
  | [] => []
  | item :: rest => ',' :: lineStart level ++ item.write level ++ writeItems level rest

/-- The members behind the first one. -/
def writeMembers (level : Nat) : List (String × Json) → List Char
  | [] => []
  | (name, value) :: rest =>
    ',' :: lineStart level ++ quote name.toList ++ [':', ' '] ++ value.write level
      ++ writeMembers level rest

end

/-- A document as text. -/
def render (j : Json) : String := String.ofList (j.write 0)

end Json

end BuildSpec.Text
