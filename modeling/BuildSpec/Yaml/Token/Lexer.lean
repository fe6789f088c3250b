import BuildSpec.Yaml.Token.Property

/-!
# From text to tokens

The lexer reads one token after another and keeps track of three things: the indentations of the
open block collections, the depth of brackets, and, for each depth, the token that may turn out to
be a key because a colon follows it on the same line.  When the colon comes, the tokens that mark
the key and, if need be, the start of a mapping are put in front of that token.

A text with a character that must be escaped everywhere is malformed from the start.
-/

namespace BuildSpec.Yaml

/-- A token that may turn out to be a key. -/
structure Candidate where
  /-- Its place among the tokens. -/
  token : Nat
  /-- Whether only a key can stand there. -/
  required : Bool
  mark : Mark
  deriving Repr

/-- What is known between two tokens. -/
structure Lexer where
  cursor : Cursor
  tokens : Array Token
  /-- The indentation of the innermost block collection, -1 outside all. -/
  indent : Int
  /-- The indentations of the collections around it. -/
  outer : List Int
  /-- The number of brackets that are open. -/
  depth : Nat
  /-- Whether a key may start here. -/
  keyAllowed : Bool
  /-- The candidates for a key, by the depth of brackets. -/
  candidates : List (Nat × Candidate)

/-- The state after one more step, and whether the text has ended. -/
abbrev LexStep := Except Fault (Lexer × Bool)

namespace Lexer

/-- The state at the start of a text. -/
def start (text : List Char) : Lexer := ⟨.start text, #[], -1, [], 0, true, []⟩

/-- The place of the next character. -/
def mark (lx : Lexer) : Mark := lx.cursor.mark

/-- Appends a token. -/
def push (lx : Lexer) (kind : TokenKind) (start stop : Mark) : Lexer :=
  { lx with tokens := lx.tokens.push ⟨kind, start, stop⟩ }

/-- Appends a token of a number of characters and reads these. -/
def take (lx : Lexer) (kind : TokenKind) (count : Nat) : Lexer :=
  let after := lx.cursor.advance count
  { lx.push kind lx.mark after.mark with cursor := after }

/-- A candidate more than a line or 1024 characters back is none. -/
def isStale (lx : Lexer) (c : Candidate) : Bool :=
  c.mark.line ≠ lx.mark.line || 1024 < lx.mark.index - c.mark.index

/-- Drops the candidates that are too far back; a required one must have become a key. -/
def dropStale (lx : Lexer) : Except Fault Lexer :=
  if lx.candidates.any fun (_, c) => lx.isStale c && c.required then .error .malformed
  else .ok { lx with candidates := lx.candidates.filter fun (_, c) => !lx.isStale c }

/-- Drops the candidate at the present depth. -/
def dropCandidate (lx : Lexer) : Except Fault Lexer :=
  if lx.candidates.any fun (d, c) => d = lx.depth && c.required then .error .malformed
  else .ok { lx with candidates := lx.candidates.filter fun (d, _) => d ≠ lx.depth }

/-- Makes the next token a candidate, if a key may start here. -/
def addCandidate (lx : Lexer) : Except Fault Lexer := do
  if lx.keyAllowed then
    let required := lx.depth = 0 && lx.indent = lx.cursor.column
    let lx ← lx.dropCandidate
    return { lx with
      candidates := (lx.depth, ⟨lx.tokens.size, required, lx.mark⟩) :: lx.candidates }
  else return lx

/-- Closes the collections with an indentation above a column, given those around. -/
def closeBlocks (column : Int) (mark : Mark) :
    Int → List Int → Array Token → Int × List Int × Array Token
  | indent, [], tokens => (indent, [], tokens)
  | indent, o :: outer, tokens =>
    if column < indent then closeBlocks column mark o outer (tokens.push ⟨.blockEnd, mark, mark⟩)
    else (indent, o :: outer, tokens)

/-- Closes the block collections with an indentation above a column; brackets suspend this. -/
def unwind (lx : Lexer) (column : Int) : Lexer :=
  if lx.depth ≠ 0 then lx
  else
    let (indent, outer, tokens) := closeBlocks column lx.mark lx.indent lx.outer lx.tokens
    { lx with indent, outer, tokens }

/-- Opens a block collection at a column, unless one is open there already. -/
def openBlock (lx : Lexer) (column : Nat) : Option Lexer :=
  if lx.indent < column then some { lx with indent := column, outer := lx.indent :: lx.outer }
  else none

/-- Reads up to the next token: spaces, comments and line ends.  Outside of brackets, a key may
start on a new line. -/
def skipGap : Nat → Cursor → (broken : Bool) → Cursor × Bool
  | 0, c, broken => (c, broken)
  | n + 1, c, broken =>
    let c := c.skip (· = ' ')
    let c := if c.head? = some '#' then c.skip (fun x => !isBreak x) else c
    match c.lineBreak? with
    | some (_, c) => skipGap n c true
    | none => (c, broken)

/-- Reads up to the next token. -/
def toToken (lx : Lexer) : Lexer :=
  let c := lx.cursor
  let c := if c.mark.index = 0 && c.head? = some byteOrderMark then c.next else c
  let (c, broken) := skipGap (c.bound + 1) c false
  { lx with cursor := c, keyAllowed := lx.keyAllowed || (broken && lx.depth = 0) }

/-- The end of the text. -/
def textEnd (lx : Lexer) : Except Fault Lexer := do
  let lx ← (lx.unwind (-1)).dropCandidate
  return { lx with keyAllowed := false, candidates := [] }.push .streamEnd lx.mark lx.mark

/-- A directive. -/
def directive (lx : Lexer) : Except Fault Lexer := do
  let lx ← (lx.unwind (-1)).dropCandidate
  let (d, after, stop) ← lx.cursor.directive
  return { lx.push (.directive d) lx.mark stop.mark with cursor := after, keyAllowed := false }

/-- A mark at the start or the end of a document. -/
def documentMark (lx : Lexer) (kind : TokenKind) : Except Fault Lexer := do
  let lx ← (lx.unwind (-1)).dropCandidate
  return { lx with keyAllowed := false }.take kind 3

/-- An opening bracket. -/
def openBracket (lx : Lexer) (kind : TokenKind) : Except Fault Lexer := do
  let lx ← lx.addCandidate
  return { lx with depth := lx.depth + 1, keyAllowed := true }.take kind 1

/-- A closing bracket. -/
def closeBracket (lx : Lexer) (kind : TokenKind) : Except Fault Lexer := do
  let lx ← lx.dropCandidate
  return { lx with depth := lx.depth - 1, keyAllowed := false }.take kind 1

/-- A comma inside brackets. -/
def flowEntry (lx : Lexer) : Except Fault Lexer := do
  let lx ← lx.dropCandidate
  return { lx with keyAllowed := true }.take .flowEntry 1

/-- Opens a block collection at the cursor, unless one is open there. -/
def openHere (lx : Lexer) (kind : TokenKind) : Lexer :=
  match lx.openBlock lx.cursor.column with
  | some lx => lx.push kind lx.mark lx.mark
  | none => lx

/-- The hyphen in front of an item. -/
def blockEntry (lx : Lexer) : Except Fault Lexer := do
  let lx ←
    if lx.depth ≠ 0 then pure lx
    else if lx.keyAllowed then pure (lx.openHere .blockSequenceStart)
    else throw .malformed
  let lx ← { lx with keyAllowed := true }.dropCandidate
  return lx.take .blockEntry 1

/-- The question mark in front of a key. -/
def key (lx : Lexer) : Except Fault Lexer := do
  let lx ←
    if lx.depth ≠ 0 then pure lx
    else if lx.keyAllowed then pure (lx.openHere .blockMappingStart)
    else throw .malformed
  let lx ← { lx with keyAllowed := lx.depth = 0 }.dropCandidate
  return lx.take .key 1

/-- Inserts a token without a text of its own. -/
def insert (lx : Lexer) (place : Nat) (kind : TokenKind) (mark : Mark) : Lexer :=
  { lx with tokens := lx.tokens.insertIdxIfInBounds place ⟨kind, mark, mark⟩ }

/-- Marks a candidate as a key, and as the first one of a mapping if none is open there. -/
def markKey (lx : Lexer) (c : Candidate) : Lexer :=
  let lx := lx.insert c.token .key c.mark
  if lx.depth ≠ 0 then lx
  else match lx.openBlock c.mark.column with
    | some lx => lx.insert c.token .blockMappingStart c.mark
    | none => lx

/-- A colon behind a candidate makes it a key; behind none, it follows a key with a question
mark, or one that is left out. -/
def value (lx : Lexer) : Except Fault Lexer := do
  match lx.candidates.lookup lx.depth with
  | some c =>
    let lx := { lx with candidates := lx.candidates.filter fun (d, _) => d ≠ lx.depth }
    return { lx.markKey c with keyAllowed := false }.take .value 1
  | none =>
    let lx ←
      if lx.depth ≠ 0 then pure lx
      else if lx.keyAllowed then pure (lx.openHere .blockMappingStart)
      else throw .malformed
    let lx ← { lx with keyAllowed := lx.depth = 0 }.dropCandidate
    return lx.take .value 1

/-- An anchor or alias. -/
def anchor (lx : Lexer) (kind : String → TokenKind) : Except Fault Lexer := do
  let lx ← lx.addCandidate
  let (name, after) ← lx.cursor.anchorName
  return { lx.push (kind name) lx.mark after.mark with cursor := after, keyAllowed := false }

/-- A tag. -/
def tag (lx : Lexer) : Except Fault Lexer := do
  let lx ← lx.addCandidate
  let (kind, after) ← lx.cursor.tag
  return { lx.push kind lx.mark after.mark with cursor := after, keyAllowed := false }

/-- A block scalar, behind which a key may start. -/
def block (lx : Lexer) (folds : Bool) : Except Fault Lexer := do
  let lx ← lx.dropCandidate
  let (text, after) ← lx.cursor.blockScalar folds lx.indent
  return { lx.push (.scalar (String.ofList text) false) lx.mark after.mark with
    cursor := after, keyAllowed := true }

/-- A quoted scalar. -/
def quotedScalar (lx : Lexer) (double : Bool) : Except Fault Lexer := do
  let lx ← lx.addCandidate
  let (text, after) ← lx.cursor.quotedScalar double
  return { lx.push (.scalar (String.ofList text) false) lx.mark after.mark with
    cursor := after, keyAllowed := false }

/-- A plain scalar; a key may start behind it if its last gap holds a line end. -/
def plainScalar (lx : Lexer) : Except Fault Lexer := do
  let lx ← lx.addCandidate
  let (text, broken, after) := lx.cursor.plainScalar (lx.depth ≠ 0) (lx.indent + 1)
  return { lx.push (.scalar (String.ofList text) true) lx.mark after.mark with
    cursor := after, keyAllowed := broken }

/-- Whether a plain scalar starts at the cursor. -/
def atPlain (lx : Lexer) (c : Char) : Bool :=
  !(isGap c || "-?:,[]\x7b\x7d#&*!|>'\"%@\x60".toList.contains c)
    || (!orEnd isGap (lx.cursor.peek? 1)
      && (c = '-' || (lx.depth = 0 && (c = '?' || c = ':'))))

/-- Reads the token that starts with a character. -/
def dispatch (lx : Lexer) (c : Char) : Except Fault Lexer :=
  let lineStart : Bool := lx.cursor.column = 0
  let gapFollows := orEnd isGap (lx.cursor.peek? 1)
  let inFlow : Bool := lx.depth ≠ 0
  if c = '%' && lineStart then lx.directive
  else if c = '-' && lineStart && lx.cursor.atDocumentMark then lx.documentMark .documentStart
  else if c = '.' && lineStart && lx.cursor.atDocumentMark then lx.documentMark .documentEnd
  else if c = '[' then lx.openBracket .flowSequenceStart
  else if c = '{' then lx.openBracket .flowMappingStart
  else if c = ']' then lx.closeBracket .flowSequenceEnd
  else if c = '}' then lx.closeBracket .flowMappingEnd
  else if c = ',' then lx.flowEntry
  else if c = '-' && gapFollows then lx.blockEntry
  else if c = '?' && (inFlow || gapFollows) then lx.key
  else if c = ':' && (inFlow || gapFollows) then lx.value
  else if c = '*' then lx.anchor .alias
  else if c = '&' then lx.anchor .anchor
  else if c = '!' then lx.tag
  else if c = '|' && !inFlow then lx.block false
  else if c = '>' && !inFlow then lx.block true
  else if c = '\'' then lx.quotedScalar false
  else if c = '"' then lx.quotedScalar true
  else if lx.atPlain c then lx.plainScalar
  else .error .malformed

/-- Reads one token; at the end of the text the Boolean is true. -/
def step (lx : Lexer) : LexStep := do
  let lx ← lx.toToken.dropStale
  let lx := lx.unwind lx.cursor.column
  match lx.cursor.head? with
  | none => return (← lx.textEnd, true)
  | some c => return (← lx.dispatch c, false)

/-- The number of tokens that are settled: no key can be put in front of any of them. -/
def settled (lx : Lexer) : Nat :=
  (lx.candidates.filter fun (_, c) => !lx.isStale c).foldl (fun n (_, c) => min n c.token)
    lx.tokens.size

/-- Reads tokens until the text ends or breaks off. -/
def run : Nat → Lexer → List Token × Option Fault
  | 0, lx => (lx.tokens.toList, some .malformed)
  | n + 1, lx =>
    match lx.step with
    | .ok (lx, true) => (lx.tokens.toList, none)
    | .ok (lx, false) => run n lx
    | .error fault => ((lx.tokens.extract 0 lx.settled).toList, some fault)

end Lexer

/-- A character that may stand in a document without an escape. -/
def isAllowed (c : Char) : Bool :=
  c = '\t' || c = '\n' || c = '\r' || (' ' ≤ c && c ≤ '~') || c = '\u0085'
    || ('\u00A0' ≤ c && c ≤ '\uD7FF') || ('\uE000' ≤ c && c ≤ '\uFFFD') || 0x10000 ≤ c.toNat

/-- The tokens of a text, up to the first place, if any, where it breaks off. -/
def tokenize (text : String) : List Token × Option Fault :=
  let chars := text.toList
  if chars.all isAllowed then Lexer.run (chars.length + 2) (.start chars)
  else ([], some .malformed)

end BuildSpec.Yaml
