/-!
# Places in a document

The characters of a document are read one after another, and every token remembers where it
starts.  Lines and columns are counted from zero.  Besides the usual line ends, the next-line
character and the line and paragraph separators end a line; a byte order mark has no width.
-/

namespace BuildSpec.Yaml

/-- A place between two characters: how many characters precede it, and its line and column. -/
structure Mark where
  index : Nat
  line : Nat
  column : Nat
  deriving DecidableEq, Repr, Inhabited

/-- The start of a document. -/
def Mark.origin : Mark := ⟨0, 0, 0⟩

/-- The byte order mark. -/
def byteOrderMark : Char := '\uFEFF'

/-- A character that ends a line. -/
def isBreak (c : Char) : Bool :=
  c = '\n' || c = '\r' || c = '\u0085' || c = '\u2028' || c = '\u2029'

/-- A space or a line end. -/
def isSpaceOrBreak (c : Char) : Bool := c = ' ' || isBreak c

/-- A space, a tab or a line end. -/
def isGap (c : Char) : Bool := c = ' ' || c = '\t' || isBreak c

/-- A class of characters, with the end of the document counted in. -/
def orEnd (p : Char → Bool) : Option Char → Bool
  | none => true
  | some c => p c

/-- A class of characters, with the end of the document left out. -/
def notEnd (p : Char → Bool) : Option Char → Bool
  | none => false
  | some c => p c

/-- The place after a character: a carriage return ends a line unless a line feed follows. -/
def Mark.after (m : Mark) (c : Char) (next : Option Char) : Mark :=
  if isBreak c && !(c = '\r' && next = some '\n') then ⟨m.index + 1, m.line + 1, 0⟩
  else if c = byteOrderMark then ⟨m.index + 1, m.line, m.column⟩
  else ⟨m.index + 1, m.line, m.column + 1⟩

/-- The characters that are still to be read, the place of the first of them, and the length of the
whole text, which bounds their number. -/
structure Cursor where
  rest : List Char
  mark : Mark
  bound : Nat
  deriving Repr, Inhabited

namespace Cursor

/-- The start of a text. -/
def start (text : List Char) : Cursor := ⟨text, .origin, text.length⟩

/-- The character some steps ahead. -/
def peek? (c : Cursor) (ahead : Nat) : Option Char := c.rest[ahead]?

/-- The next character. -/
def head? (c : Cursor) : Option Char := c.rest.head?

/-- The column of the next character. -/
def column (c : Cursor) : Nat := c.mark.column

/-- Reads one character. -/
def next (c : Cursor) : Cursor :=
  match c.rest with
  | [] => c
  | x :: rest => { c with rest, mark := c.mark.after x rest.head? }

/-- Reads a number of characters. -/
def advance : Nat → Cursor → Cursor
  | 0, c => c
  | n + 1, c => advance n c.next

/-- Reads characters of a class as long as there are any. -/
def spanFrom (p : Char → Bool) (bound : Nat) : List Char → Mark → List Char × Cursor
  | [], mark => ([], ⟨[], mark, bound⟩)
  | x :: rest, mark =>
    if p x then
      let (taken, c) := spanFrom p bound rest (mark.after x rest.head?)
      (x :: taken, c)
    else ([], ⟨x :: rest, mark, bound⟩)

/-- The characters of a class at the cursor, and the cursor behind them. -/
def span (p : Char → Bool) (c : Cursor) : List Char × Cursor := spanFrom p c.bound c.rest c.mark

/-- The cursor behind the characters of a class. -/
def skip (p : Char → Bool) (c : Cursor) : Cursor := (c.span p).2

/-- Reads a line end, which becomes a line feed unless it is a line or paragraph separator. -/
def lineBreak? (c : Cursor) : Option (Char × Cursor) :=
  match c.rest with
  | '\r' :: '\n' :: _ => some ('\n', c.next.next)
  | x :: _ =>
    if x = '\u2028' || x = '\u2029' then some (x, c.next)
    else if isBreak x then some ('\n', c.next)
    else none
  | [] => none

/-- Whether the text at the cursor starts with the given characters. -/
def startsWith (c : Cursor) (text : List Char) : Bool := text.isPrefixOf c.rest

/-- Whether three hyphens or three points stand at the cursor, alone: they end a document where a
line starts with them. -/
def atDocumentMark (c : Cursor) : Bool :=
  (c.startsWith ['-', '-', '-'] || c.startsWith ['.', '.', '.']) && orEnd isGap (c.peek? 3)

end Cursor

end BuildSpec.Yaml
