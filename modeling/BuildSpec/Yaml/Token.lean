import BuildSpec.Yaml.Mark

/-!
# Tokens

The words of a document: the indicators as they stand in the text, the scalars and node properties
with their content, and the tokens that indentation and the search for keys add, which have no text
of their own.
-/

namespace BuildSpec.Yaml

/-- A line that starts with a percent sign. -/
inductive Directive where
  | version (major minor : Nat)
  | tagHandle (handle lead : String)
  | other
  deriving DecidableEq, Repr

/-- The kinds of tokens. -/
inductive TokenKind where
  | directive (d : Directive)
  | documentStart
  | documentEnd
  | streamEnd
  | blockSequenceStart
  | blockMappingStart
  | blockEnd
  | flowSequenceStart
  | flowSequenceEnd
  | flowMappingStart
  | flowMappingEnd
  | flowEntry
  | blockEntry
  | key
  | value
  | alias (name : String)
  | anchor (name : String)
  /-- A tag: with a handle that stands for its first part, or written out. -/
  | tag (handle : Option String) (suffix : String)
  /-- A scalar; `isPlain` if it is neither quoted nor a block. -/
  | scalar (text : String) (isPlain : Bool)
  deriving DecidableEq, Repr

/-- A token and where it starts and stops. -/
structure Token where
  kind : TokenKind
  start : Mark
  stop : Mark
  deriving DecidableEq, Repr

end BuildSpec.Yaml
