import BuildSpec.Pointer
import BuildSpec.Value.Equal

/-!
# Schemas

A schema is a row of rules for a value.  Rules for parts of a value are schemas in turn, and a rule
may refer to a schema elsewhere in the same document; so schemas can describe data of any depth.
-/

namespace BuildSpec.Schema

/-- The kinds of values that a schema can ask for. -/
inductive Kind where
  | null
  | boolean
  | integer
  | number
  | string
  | array
  | object
  deriving DecidableEq, Repr

/-- The kind that a word stands for. -/
def Kind.ofWord? : String → Option Kind
  | "null" => some null
  | "boolean" => some boolean
  | "integer" => some integer
  | "number" => some number
  | "string" => some string
  | "array" => some array
  | "object" => some object
  | _ => none

/-- A rule of a schema. -/
inductive Rule where
  /-- The value obeys the schema that a reference leads to. -/
  | reference (target : String)
  /-- The value is of one of some kinds, which are given by words. -/
  | kinds (words : List String)
  /-- In a mapping, the value under each key obeys a schema. -/
  | properties (fields : List (String × List Rule))
  /-- In a mapping, the values under keys other than the declared ones obey a schema. -/
  | otherProperties (declared : List String) (rules : List Rule)
  /-- In a list, the items obey a schema. -/
  | items (rules : List Rule)
  /-- In a list, each of the first items obeys a schema of its own. -/
  | itemsInTurn (schemas : List (List Rule))
  /-- A list has no items. -/
  | noItems
  /-- A mapping has certain keys. -/
  | required (names : List String)
  /-- The value is one of some values. -/
  | oneOf (values : List Value)
  /-- The value obeys at least one of some schemas. -/
  | anyOf (options : List (List Rule))
  /-- No value obeys this rule. -/
  | never

/-- The editions of the schema language, as far as they differ. -/
structure Edition where
  /-- A reference stands alone: the rules beside it do not count. -/
  referenceAlone : Bool
  /-- A floating-point number without a fraction is an integer. -/
  wholeFloats : Bool
  /-- The items of a list may be described one by one. -/
  itemsInTurn : Bool
  deriving DecidableEq, Repr

/-- A schema with all that it refers to. -/
structure Document where
  edition : Edition
  rules : List Rule
  /-- The schemas that references lead to. -/
  targets : List (String × List Rule)

end BuildSpec.Schema
