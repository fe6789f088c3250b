import BuildSpec.Value.Set
import BuildSpec.Yaml.Graph

/-!
# Nodes

A node as a tree, with a copy of each node at every place where an alias puts it.  Where a
collection occurs inside itself the tree is cut.  The tree of a settled document stands for a value.
-/

namespace BuildSpec.Yaml

/-- A node of a document; the last one is a place where an enclosing collection recurs, which is a
mapping or a sequence. -/
inductive Node where
  | scalar (tag : Tag) (text : String) (mark : Mark)
  | sequence (tag : Tag) (items : List Node) (mark : Mark)
  | mapping (tag : Tag) (entries : List (Node × Node)) (mark : Mark)
  | enclosing (isMapping : Bool) (tag : Tag)
  deriving Inhabited

/-- A place inside a collection where the collection recurs. -/
def Graph.recurrence (g : Graph) (i : Nat) : Node :=
  .enclosing (g.cell i matches .mapping ..) (g.tag i)

/-- The tree below a node that belongs to a key, inside the nodes of the key with the numbers
`around`. -/
def Graph.keyFrom (g : Graph) : Nat → (around : List Nat) → Nat → Node
  | 0, _, i => g.recurrence i
  | n + 1, around, i =>
    let below := keyFrom g n (i :: around)
    if around.contains i then g.recurrence i
    else match g.cell i with
      | .scalar tag text mark => .scalar tag text mark
      | .sequence tag items mark => .sequence tag (items.map below) mark
      | .mapping tag entries mark =>
        .mapping tag (entries.map fun e => (below e.1, below e.2)) mark

/-- The tree below a node, inside the nodes with the numbers `around`.  A key of a mapping is a tree
of its own: what encloses the mapping does not enclose the key. -/
def Graph.treeFrom (g : Graph) : Nat → (around : List Nat) → Nat → Node
  | 0, _, i => g.recurrence i
  | n + 1, around, i =>
    let key := g.keyFrom (g.cells.size + 1) []
    let below := treeFrom g n (i :: around)
    if around.contains i then g.recurrence i
    else match g.cell i with
      | .scalar tag text mark => .scalar tag text mark
      | .sequence tag items mark => .sequence tag (items.map below) mark
      | .mapping tag entries mark =>
        .mapping tag (entries.map fun e => (key e.1, below e.2)) mark

/-- A document as a tree, as it is written. -/
def Graph.tree (g : Graph) : Node := g.treeFrom (g.cells.size + 1) [] g.root

/-- The tree below the node with a number, inside the collections with the numbers `around`.  A node
with a known text is a scalar.  A mapping that is an item of a list of pairs is no collection of its
own, but belongs to the list. -/
def Graph.Settled.treeFrom (s : Graph.Settled) : Nat → (around : List Nat) → Nat → Node
  | 0, _, i => s.graph.recurrence i
  | n + 1, around, i =>
    let below := treeFrom s n (i :: around)
    let entriesBelow (entries : List (Nat × Nat)) := entries.map fun e => (below e.1, below e.2)
    if around.contains i then s.graph.recurrence i
    else match s.graph.cell i, s.texts.getD i none with
      | .scalar tag text mark, none => .scalar tag text mark
      | .scalar tag _ mark, some text | .sequence tag _ mark, some text
      | .mapping tag _ mark, some text => .scalar tag text mark
      | .sequence tag items mark, none =>
        .sequence tag (items.map fun item =>
          match tag.isOfPairs, s.graph.cell item with
          | true, .mapping tag entries mark => .mapping tag (entriesBelow entries) mark
          | _, _ => below item) mark
      | .mapping tag entries mark, none => .mapping tag (entriesBelow entries) mark

/-- A settled document as a tree. -/
def Graph.Settled.tree (s : Graph.Settled) : Node :=
  s.treeFrom (s.graph.cells.size + 1) [] s.graph.root

namespace Node

/-- A key of a mapping: its value, and the place of a value that is not a number and that is written
in general notation. -/
structure Key where
  value : Value
  place : Option Mark

/-- Whether two keys are one.  Equal scalars are.  A value that is not a number equals nothing; it
is one key with itself only, that is, with what comes from the same place. -/
def Key.same (a b : Key) : Bool :=
  Value.sameScalar a.value b.value
    || (a.value.isNotANumber && b.value.isNotANumber && a.place = b.place)

/-- The mapping that results from writing entries one after another. -/
def mapOf (entries : List (Key × Value)) : Entries :=
  (Table.ofEntries Key.same entries).map fun (key, value) => (key.value, value)

/-- The key that a scalar stands for under a tag. -/
def scalarKey (tag : Tag) (text : String) (mark : Mark) : Except Fault Key := do
  let value ← scalarValue tag text
  return ⟨value, if (floatParts text).2 = notANumberWord then none else some mark⟩

mutual

/-- The value that a node stands for. -/
def value : Node → Except Fault Value
  | scalar tag text _ => scalarValue tag text
  | sequence .seq items _ => .list <$> values items
  | sequence .omap items _ | sequence .pairs items _ => .list <$> pairs items
  | mapping .map entries _ => (.map <| mapOf ·) <$> entryValues entries
  | mapping .set entries _ =>
    (fun es => Value.setOf ((mapOf es).map Prod.fst)) <$> entryValues entries
  | sequence .. | mapping .. => .error .malformed
  | enclosing .. => .ok .enclosing

/-- The values of nodes one after another. -/
def values : List Node → Except Fault (List Value)
  | [] => .ok []
  | item :: rest => do return (← item.value) :: (← values rest)

/-- The values of the entries of a mapping, the keys of which are scalars. -/
def entryValues : List (Node × Node) → Except Fault (List (Key × Value))
  | [] => .ok []
  | (scalar tag text mark, value) :: rest => do
    return (← scalarKey tag text mark, ← value.value) :: (← entryValues rest)
  | _ => .error .malformed

/-- The values of mappings with one entry each, as pairs. -/
def pairs : List Node → Except Fault (List Value)
  | [] => .ok []
  | mapping _ [(key, value)] _ :: rest => do
    return .tuple [← key.value, ← value.value] :: (← pairs rest)
  | _ => .error .malformed

end

end Node

end BuildSpec.Yaml
