import BuildSpec.Number.Read
import BuildSpec.Text.Utf8
import BuildSpec.Yaml.Token
import BuildSpec.Yaml.Token.Scalar

/-!
# Names, tags and directives in the text

Anchors and aliases are named by ASCII letters, digits, hyphens and underscores.  A tag is written
between angle brackets, or as a handle and a suffix, with bytes that have no character of their own
behind percent signs.
-/

namespace BuildSpec.Yaml.Cursor

/-- A character of a name. -/
def isWord (c : Char) : Bool := c.isAlphanum || c = '-' || c = '_'

/-- A character of a tag. -/
def isTagChar (c : Char) : Bool := c.isAlphanum || "-;/?:@&=+$,_.!~*'()[]%".toList.contains c

/-- The name of an anchor or alias, from its indicator on. -/
def anchorName (c : Cursor) : Except Fault (String × Cursor) :=
  let (name, c) := c.next.span isWord
  if name.isEmpty then .error .malformed
  else if orEnd (fun x => isGap x || "?:,]\x7d%@\x60".toList.contains x) c.head? then
    .ok (String.ofList name, c)
  else .error .malformed

/-- Bytes in hexadecimal, each behind a percent sign, that make up characters. -/
def escapedBytes : Nat → Cursor → Except Fault (List UInt8 × Cursor)
  | 0, c => .ok ([], c)
  | n + 1, c =>
    if c.head? = some '%' then do
      let (b, c) ← hexNumber 2 c.next
      let (more, c) ← escapedBytes n c
      return (b.toUInt8 :: more, c)
    else .ok ([], c)

/-- The characters of a tag. -/
def tagChars : Nat → Cursor → Except Fault (List Char × Cursor)
  | 0, c => .ok ([], c)
  | n + 1, c => do
    let (plain, c) := c.span fun x => isTagChar x && x ≠ '%'
    if c.head? = some '%' then
      let (bytes, c) ← escapedBytes (c.bound + 1) c
      match Text.decodeUtf8 bytes with
      | .ok decoded =>
        let (more, c) ← tagChars n c
        return (plain ++ decoded ++ more, c)
      | .error _ => throw .malformed
    else return (plain, c)

/-- The part of a tag that is written out; it is not empty. -/
def tagUri (c : Cursor) : Except Fault (String × Cursor) := do
  if notEnd isTagChar c.head? then
    let (uri, c) ← tagChars (c.bound + 1) c
    return (String.ofList uri, c)
  else throw .malformed

/-- A handle: an exclamation mark, or a word between two of them. -/
def tagHandle (c : Cursor) : Except Fault (String × Cursor) :=
  if c.head? ≠ some '!' then .error .malformed
  else if c.peek? 1 = some ' ' then .ok ("!", c.next)
  else
    let (word, after) := c.next.span isWord
    if after.head? = some '!' then .ok (String.ofList ('!' :: (word ++ ['!'])), after.next)
    else .error .malformed

/-- A tag, from its exclamation mark on. -/
def tag (c : Cursor) : Except Fault (TokenKind × Cursor) := do
  let (kind, c) ←
    if c.peek? 1 = some '<' then do
      let (uri, c) ← (c.advance 2).tagUri
      if c.head? = some '>' then pure (TokenKind.tag none uri, c.next) else throw .malformed
    else if orEnd isGap (c.peek? 1) then pure (TokenKind.tag none "!", c.next)
    else do
      let (_, end_) := c.next.span fun x => !(isSpaceOrBreak x || x = '!')
      let (handle, c) ← if end_.head? = some '!' then c.tagHandle else pure ("!", c.next)
      let (suffix, c) ← c.tagUri
      pure (TokenKind.tag (some handle) suffix, c)
  if orEnd isSpaceOrBreak c.head? then return (kind, c) else throw .malformed

/-- A decimal number in a directive. -/
def directiveNumber (c : Cursor) : Except Fault (Nat × Cursor) :=
  let (digits, c) := c.span Char.isDigit
  match Number.readInteger 10 digits with
  | .ok n => .ok (n.toNat, c)
  | .error .notDigits => .error .malformed
  | .error (.tooLong fault) => .error (.tooLong fault)

/-- What follows the name of a directive. -/
def directiveBody (name : String) (c : Cursor) : Except Fault (Directive × Cursor) := do
  if name = "YAML" then
    let (major, c) ← (c.skip (· = ' ')).directiveNumber
    if c.head? ≠ some '.' then throw .malformed
    let (minor, c) ← c.next.directiveNumber
    if orEnd isSpaceOrBreak c.head? then return (.version major minor, c) else throw .malformed
  else if name = "TAG" then
    let (handle, c) ← (c.skip (· = ' ')).tagHandle
    if c.head? ≠ some ' ' then throw .malformed
    let (lead, c) ← (c.skip (· = ' ')).tagUri
    if orEnd isSpaceOrBreak c.head? then return (.tagHandle handle lead, c) else throw .malformed
  else return (.other, c.skip fun x => !isBreak x)

/-- A directive, from its percent sign to the end of its line.  The second cursor stands behind
the directive itself. -/
def directive (c : Cursor) : Except Fault (Directive × Cursor × Cursor) := do
  let (name, c) := c.next.span isWord
  if name.isEmpty || !orEnd isSpaceOrBreak c.head? then throw .malformed
  let (d, stop) ← directiveBody (String.ofList name) c
  let c ← stop.restOfLine
  return (d, c, stop)

end BuildSpec.Yaml.Cursor
