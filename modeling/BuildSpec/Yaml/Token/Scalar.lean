import BuildSpec.Yaml.Fault
import BuildSpec.Yaml.Mark

/-!
# Scalars in the text

The three ways to write a scalar.  A plain scalar ends at a colon or a comment, a quoted one at its
quote, a block at the first line that is indented less.  In all of them a single line end between
two lines is a space and further line ends are kept, except in a literal block, which keeps every
line end.
-/

namespace BuildSpec.Yaml.Cursor

/-- Line ends after the first one, up to a class of characters that may stand before each. -/
def breaksAfter (isPadding : Char → Bool) : Nat → Cursor → List Char × Cursor
  | 0, c => ([], c)
  | n + 1, c =>
    let c := c.skip isPadding
    match c.lineBreak? with
    | some (b, c) =>
      let (more, c) := breaksAfter isPadding n c
      (b :: more, c)
    | none => ([], c)

/-- What a line end followed by further line ends stands for. -/
def folded (first : Char) (more : List Char) : List Char :=
  if first ≠ '\n' then first :: more else if more.isEmpty then [' '] else more

/-! ### Plain scalars -/

/-- A character that only ends a plain scalar inside brackets. -/
def isFlowIndicator (c : Char) : Bool := c = ',' || c = '[' || c = ']' || c = '{' || c = '}'

/-- The longest stretch without gaps that belongs to a plain scalar. -/
def plainRun (inFlow : Bool) (bound : Nat) : List Char → Mark → List Char × Cursor
  | [], mark => ([], ⟨[], mark, bound⟩)
  | c :: rest, mark =>
    let next := rest.head?
    if isGap c
        || (c = ':' && (orEnd isGap next || (inFlow && notEnd isFlowIndicator next)))
        || (inFlow && (c = '?' || isFlowIndicator c)) then
      ([], ⟨c :: rest, mark, bound⟩)
    else
      let (taken, cur) := plainRun inFlow bound rest (mark.after c next)
      (c :: taken, cur)

/-- The line ends behind the first one in a plain scalar; `none` at a document mark. -/
def plainBreaks : Nat → Cursor → Option (List Char) × Cursor
  | 0, c => (some [], c)
  | n + 1, c =>
    if c.atDocumentMark then (none, c)
    else
      let c := c.skip (· = ' ')
      match c.lineBreak? with
      | some (b, c) =>
        let (more, c) := plainBreaks n c
        (more.map (b :: ·), c)
      | none => (some [], c)

/-- The gap behind a stretch of a plain scalar: what it stands for if the scalar goes on, and
whether a line ends in it. -/
def plainGap (c : Cursor) : List Char × Bool × Cursor :=
  let (spaces, c) := c.span (· = ' ')
  match c.lineBreak? with
  | some (b, c) =>
    match plainBreaks (c.bound + 1) c with
    | (some more, c) => (folded b more, true, c)
    | (none, c) => ([], true, c)
  | none => (spaces, false, c)

/-- The stretches of a plain scalar, from a cursor on, with the text of the gap before it.  The
Boolean says whether the last gap held a line end. -/
def plainRest (inFlow : Bool) (indent : Int) :
    Nat → (gap : List Char) → (broken : Bool) → Cursor → List Char × Bool × Cursor
  | 0, _, broken, c => ([], broken, c)
  | n + 1, gap, broken, c =>
    if c.head? = some '#' then ([], broken, c)
    else
      let (run, after) := plainRun inFlow c.bound c.rest c.mark
      if run.isEmpty then ([], broken, c)
      else
        let (nextGap, nextBroken, c) := after.plainGap
        if nextGap.isEmpty || c.head? = some '#' || (!inFlow && (c.column : Int) < indent) then
          (gap ++ run, nextBroken, c)
        else
          let (more, last, c) := plainRest inFlow indent n nextGap nextBroken c
          (gap ++ run ++ more, last, c)

/-- A plain scalar: its text, and whether it ends behind a line end. -/
def plainScalar (inFlow : Bool) (indent : Int) (c : Cursor) : List Char × Bool × Cursor :=
  plainRest inFlow indent (c.bound + 1) [] false c

/-! ### Quoted scalars -/

/-- The characters that a letter after a backslash stands for. -/
def escapes : List (Char × Char) :=
  [('0', '\x00'), ('a', '\x07'), ('b', '\x08'), ('t', '\t'), ('\t', '\t'), ('n', '\n'),
   ('v', '\x0B'), ('f', '\x0C'), ('r', '\r'), ('e', '\x1B'), (' ', ' '), ('"', '"'), ('\\', '\\'),
   ('/', '/'), ('N', '\u0085'), ('_', '\u00A0'), ('L', '\u2028'), ('P', '\u2029')]

/-- The letters after a backslash that are followed by a number of hexadecimal digits. -/
def numericEscapes : List (Char × Nat) := [('x', 2), ('u', 4), ('U', 8)]

/-- The value of a hexadecimal digit. -/
def hexValue? (c : Char) : Option Nat :=
  if '0' ≤ c ∧ c ≤ '9' then some (c.toNat - '0'.toNat)
  else if 'a' ≤ c ∧ c ≤ 'f' then some (c.toNat - 'a'.toNat + 10)
  else if 'A' ≤ c ∧ c ≤ 'F' then some (c.toNat - 'A'.toNat + 10)
  else none

/-- A number of a fixed count of hexadecimal digits. -/
def hexNumber (count : Nat) (c : Cursor) : Except Fault (Nat × Cursor) :=
  let digits := (c.rest.take count).filterMap hexValue?
  if digits.length = count then .ok (digits.foldl (fun n d => 16 * n + d) 0, c.advance count)
  else .error .malformed

/-- The line ends behind the first one in a quoted scalar, in which no document mark may stand. -/
def quotedBreaks : Nat → Cursor → Except Fault (List Char × Cursor)
  | 0, c => .ok ([], c)
  | n + 1, c =>
    if c.atDocumentMark then .error .malformed
    else
      let c := c.skip fun x => x = ' ' || x = '\t'
      match c.lineBreak? with
      | some (b, c) => do
        let (more, c) ← quotedBreaks n c
        return (b :: more, c)
      | none => .ok ([], c)

/-- What stands at the cursor inside double quotes, behind a backslash. -/
def escape (c : Cursor) : Except Fault (List Char × Cursor) := do
  let some letter := c.head? | throw .malformed
  match escapes.lookup letter, numericEscapes.lookup letter with
  | some x, _ => return ([x], c.next)
  | none, some count =>
    let (code, c) ← hexNumber count c.next
    if code < 0x110000 then return ([Char.ofNat code], c) else throw (.codePoint code)
  | none, none =>
    match c.lineBreak? with
    | some (_, c) => quotedBreaks (c.bound + 1) c
    | none => throw .malformed

/-- A gap inside quotes: spaces and tabs, or line ends with the spaces and tabs around them. -/
def quotedGap (c : Cursor) : Except Fault (List Char × Cursor) := do
  let (spaces, c) := c.span fun x => x = ' ' || x = '\t'
  match c.lineBreak? with
  | some (b, c) =>
    let (more, c) ← quotedBreaks (c.bound + 1) c
    return (folded b more, c)
  | none => if c.rest.isEmpty then throw .malformed else return (spaces, c)

/-- The text up to the closing quote. -/
def quotedRest (double : Bool) : Nat → Cursor → Except Fault (List Char × Cursor)
  | 0, _ => .error .malformed
  | n + 1, c => do
    let some x := c.head? | throw .malformed
    let (part, c) ←
      if x = '\'' && !double then
        if c.peek? 1 = some '\'' then pure (['\''], c.advance 2) else return ([], c.next)
      else if x = '"' && double then return ([], c.next)
      else if x = '\\' && double then c.next.escape
      else if isGap x then c.quotedGap
      else pure ([x], c.next)
    let (more, c) ← quotedRest double n c
    return (part ++ more, c)

/-- A quoted scalar, from its opening quote on. -/
def quotedScalar (double : Bool) (c : Cursor) : Except Fault (List Char × Cursor) :=
  quotedRest double (c.bound + 1) c.next

/-! ### Block scalars -/

/-- What becomes of the line ends at the end of a block. -/
inductive Chomping where
  | clip
  | strip
  | keep
  deriving DecidableEq, Repr

/-- The chomping mark at the head of a block. -/
def chomping? (c : Cursor) : Option (Chomping × Cursor) :=
  match c.head? with
  | some '+' => some (.keep, c.next)
  | some '-' => some (.strip, c.next)
  | _ => none

/-- The digit at the head of a block that gives its indentation; zero is refused. -/
def indentDigit (c : Cursor) : Except Fault (Option Nat × Cursor) :=
  match c.head? with
  | some x =>
    if x = '0' then .error .malformed
    else if '1' ≤ x ∧ x ≤ '9' then .ok (some (x.toNat - '0'.toNat), c.next)
    else .ok (none, c)
  | none => .ok (none, c)

/-- The head of a block: chomping mark and indentation digit, in any order. -/
def blockHead (c : Cursor) : Except Fault ((Chomping × Option Nat) × Cursor) := do
  let (chomp, indent, c) ← match c.chomping? with
    | some (chomp, c) => do
      let (indent, c) ← c.indentDigit
      pure (chomp, indent, c)
    | none => do
      let (indent, c) ← c.indentDigit
      match indent, c.chomping? with
      | some n, some (chomp, c) => pure (chomp, some n, c)
      | indent, _ => pure (.clip, indent, c)
  if orEnd isSpaceOrBreak c.head? then return ((chomp, indent), c) else throw .malformed

/-- Reads the rest of a line in which only a comment may stand. -/
def restOfLine (c : Cursor) : Except Fault Cursor :=
  let c := c.skip (· = ' ')
  let c := if c.head? = some '#' then c.skip (fun x => !isBreak x) else c
  match c.lineBreak? with
  | some (_, c) => .ok c
  | none => if c.rest.isEmpty then .ok c else .error .malformed

/-- The empty lines at the start of a block without an indentation digit, and the column up to
which the deepest of the lines read is indented. -/
def leadingBreaks : Nat → (deepest : Nat) → Cursor → List Char × Nat × Cursor
  | 0, deepest, c => ([], deepest, c)
  | n + 1, deepest, c =>
    let (spaces, c) := c.span (· = ' ')
    let deepest := if spaces.isEmpty then deepest else max deepest c.column
    match c.lineBreak? with
    | some (b, c) =>
      let (more, deepest, c) := leadingBreaks n deepest c
      (b :: more, deepest, c)
    | none => ([], deepest, c)

/-- Reads spaces up to a column. -/
def skipIndent (indent bound : Nat) : List Char → Mark → Cursor
  | [], mark => ⟨[], mark, bound⟩
  | x :: rest, mark =>
    if x = ' ' ∧ mark.column < indent then
      skipIndent indent bound rest (mark.after x rest.head?)
    else ⟨x :: rest, mark, bound⟩

/-- The line ends at the cursor, each behind at most the block's indentation. -/
def blockBreaks (indent : Nat) : Nat → Cursor → List Char × Cursor
  | 0, c => ([], c)
  | n + 1, c =>
    let c := skipIndent indent c.bound c.rest c.mark
    match c.lineBreak? with
    | some (b, c) =>
      let (more, c) := blockBreaks indent n c
      (b :: more, c)
    | none => ([], c)

/-- The lines of a block, from a line's first character on, behind some empty lines.  The result
is the text up to the last line's own characters, that line's end, and the empty lines behind. -/
def blockLines (folds : Bool) (indent : Nat) :
    Nat → (empties : List Char) → Cursor → List Char × List Char × List Char × Cursor
  | 0, empties, c => ([], [], empties, c)
  | n + 1, empties, c =>
    if c.column = indent ∧ !c.rest.isEmpty then
      let opensWithGap := notEnd (fun x => x = ' ' || x = '\t') c.head?
      let (line, c) := c.span (fun x => !isBreak x)
      let (ending, c) := match c.lineBreak? with
        | some (b, c) => ([b], c)
        | none => ([], c)
      let (nextEmpties, c) := blockBreaks indent (c.bound + 1) c
      if c.column = indent ∧ !c.rest.isEmpty then
        let joint :=
          if folds && ending = ['\n'] && !opensWithGap
              && !notEnd (fun x => x = ' ' || x = '\t') c.head? then
            if nextEmpties.isEmpty then [' '] else []
          else ending
        let (more, last, tail, c) := blockLines folds indent n nextEmpties c
        (empties ++ line ++ joint ++ more, last, tail, c)
      else (empties ++ line, ending, nextEmpties, c)
    else ([], [], empties, c)

/-- A block scalar, from its indicator on, inside a collection with the given indentation. -/
def blockScalar (folds : Bool) (parentIndent : Int) (c : Cursor) :
    Except Fault (List Char × Cursor) := do
  let ((chomp, digit), c) ← c.next.blockHead
  let c ← c.restOfLine
  let least := (max (parentIndent + 1) 1).toNat
  let (empties, indent, c) := match digit with
    | some n =>
      let indent := least + n - 1
      let (empties, c) := blockBreaks indent (c.bound + 1) c
      (empties, indent, c)
    | none =>
      let (empties, deepest, c) := leadingBreaks (c.bound + 1) 0 c
      (empties, max least deepest, c)
  let (text, last, tail, c) := blockLines folds indent (c.bound + 1) empties c
  return match chomp with
    | .strip => (text, c)
    | .clip => (text ++ last, c)
    | .keep => (text ++ last ++ tail, c)

end BuildSpec.Yaml.Cursor
