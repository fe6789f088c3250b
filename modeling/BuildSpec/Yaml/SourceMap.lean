import BuildSpec.SourceMap
import BuildSpec.Text.Quoted
import BuildSpec.Yaml.Node

/-!
# Where the elements of a document start

Every node of a tree is recorded under the pointer that leads to it, made of the texts of keys and
the positions in sequences.  A key that is no scalar counts with a description of its parts.  Where a
collection recurs among the items and values inside itself, the nodes to be recorded have no end.
-/

namespace BuildSpec.Yaml.Node

/-- A node and its kind in the description of a key. -/
def described (kind : String) (tag : Tag) (content : String) : String :=
  kind ++ "(tag=" ++ Text.quoted tag.uri ++ ", value=" ++ content ++ ")"

/-- The kind of a collection in the description of a key. -/
def collectionKind (isMapping : Bool) : String :=
  if isMapping then "MappingNode" else "SequenceNode"

mutual

/-- The description of a node inside a key. -/
def description : Node → String
  | scalar tag text _ => described "ScalarNode" tag (Text.quoted text)
  | sequence tag items _ =>
    described (collectionKind false) tag ("[" ++ ", ".intercalate (itemDescriptions items) ++ "]")
  | mapping tag entries _ =>
    described (collectionKind true) tag ("[" ++ ", ".intercalate (entryDescriptions entries) ++ "]")
  | enclosing isMapping tag => described (collectionKind isMapping) tag "[...]"

/-- The descriptions of nodes one after another. -/
def itemDescriptions : List Node → List String
  | [] => []
  | item :: rest => item.description :: itemDescriptions rest

/-- The descriptions of the entries of a mapping. -/
def entryDescriptions : List (Node × Node) → List String
  | [] => []
  | (key, value) :: rest =>
    ("(" ++ key.description ++ ", " ++ value.description ++ ")") :: entryDescriptions rest

end

/-- The token for a key in a pointer. -/
def keyToken : Node → String
  | scalar _ text _ => text
  | sequence _ items _ => "[" ++ ", ".intercalate (itemDescriptions items) ++ "]"
  | mapping _ entries _ => "[" ++ ", ".intercalate (entryDescriptions entries) ++ "]"
  | enclosing .. => "[...]"

mutual

/-- Whether a collection recurs inside itself at a node or below it; keys are not looked into. -/
def recurs : Node → Bool
  | scalar .. => false
  | sequence _ items _ => itemsRecur items
  | mapping _ entries _ => valuesRecur entries
  | enclosing .. => true

/-- Whether a collection recurs inside itself among the items of a sequence. -/
def itemsRecur : List Node → Bool
  | [] => false
  | item :: rest => item.recurs || itemsRecur rest

/-- Whether a collection recurs inside itself among the values of a mapping. -/
def valuesRecur : List (Node × Node) → Bool
  | [] => false
  | (_, value) :: rest => value.recurs || valuesRecur rest

end

/-- The place of a mark, counted from one. -/
def placeOf (mark : Mark) : Place := ⟨some (mark.line + 1), some (mark.column + 1)⟩

mutual

/-- The places of a node and of the nodes below it, in the order of the text, as far as the tree
goes. -/
def places (pointer : String) : Node → List (String × Place)
  | scalar _ _ mark => [(pointer, placeOf mark)]
  | sequence _ items mark => (pointer, placeOf mark) :: itemPlaces pointer 0 items
  | mapping _ entries mark => (pointer, placeOf mark) :: entryPlaces pointer entries
  | enclosing .. => []

/-- The places of the items of a sequence, from a position on. -/
def itemPlaces (pointer : String) (position : Nat) : List Node → List (String × Place)
  | [] => []
  | item :: rest =>
    item.places (Pointer.child pointer (toString position))
      ++ itemPlaces pointer (position + 1) rest

/-- The places of the values of a mapping. -/
def entryPlaces (pointer : String) : List (Node × Node) → List (String × Place)
  | [] => []
  | (key, value) :: rest =>
    value.places (Pointer.child pointer key.keyToken) ++ entryPlaces pointer rest

end

/-- The source map of a document in which no collection recurs. -/
def sourceMap (root : Node) : SourceMap := .ofList (root.places "")

end BuildSpec.Yaml.Node
