import BuildSpec.Calendar

/-!
# Values

The data that a spec file holds: scalars of several kinds, lists, and mappings in the order of
their keys' first mention.  A mapping's keys are scalars, no two of which are equal as numbers,
texts, days or moments; so `1`, `1.0` and `true` cannot be keys of one mapping.
-/

namespace BuildSpec

/-- A value of any kind.  The last one stands for a container at a place inside itself. -/
inductive Value where
  | null
  | bool (b : Bool)
  | int (n : Int)
  | float (x : Float)
  | text (s : String)
  | bytes (b : List UInt8)
  | day (d : Day)
  | moment (m : Moment)
  | list (items : List Value)
  | tuple (items : List Value)
  | set (items : List Value)
  | map (entries : List (Value × Value))
  | enclosing
  deriving Inhabited

/-- The entries of a mapping. -/
abbrev Entries := List (Value × Value)

namespace Value

/-- The name of a value's kind, as it is written in messages. -/
def kindName : Value → String
  | null => "NoneType"
  | bool _ => "bool"
  | int _ => "int"
  | float _ => "float"
  | text _ => "str"
  | bytes _ => "bytes"
  | day _ => "date"
  | moment _ => "datetime"
  | list _ => "list"
  | tuple _ => "tuple"
  | set _ => "set"
  | map _ => "dict"
  | enclosing => "object"

/-- An empty, zero, false or null value counts as absent where a default may take its place. -/
def isBlank : Value → Bool
  | null => true
  | bool b => !b
  | int n => n == 0
  | float x => x == 0.0
  | text s => s.isEmpty
  | bytes b => b.isEmpty
  | list items | tuple items | set items => items.isEmpty
  | map entries => entries.isEmpty
  | day _ | moment _ | enclosing => false

end Value

end BuildSpec
