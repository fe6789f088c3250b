import BuildSpec.Yaml.Mark
import BuildSpec.Yaml.Scalar

/-!
# Documents as graphs

An alias makes one node occur at several places, even inside itself.  So a document is a graph: its
nodes are numbered, and a collection refers to its parts by number.

Before a graph stands for data it is settled: every node is checked, level by level from the root,
so that all parts of the collections of one level come before any part of a deeper one.  When a
mapping is opened, its merge keys are replaced by the entries that they refer to, which come before
the mapping's own ones, so that the own ones win; and its keys that mark a default become texts.
Both changes are seen wherever an alias puts the changed nodes, but only by what is checked later;
so the text of a node that stands for a scalar is kept when the node is first reached.
-/

namespace BuildSpec.Yaml

/-- A node whose parts are given by number. -/
inductive Cell where
  | scalar (tag : Tag) (text : String) (mark : Mark)
  | sequence (tag : Tag) (items : List Nat) (mark : Mark)
  | mapping (tag : Tag) (entries : List (Nat × Nat)) (mark : Mark)
  deriving Repr, Inhabited

/-- The tag of a node. -/
def Cell.tag : Cell → Tag
  | .scalar tag _ _ | .sequence tag _ _ | .mapping tag _ _ => tag

/-- A document: its nodes, and the number of the outermost one. -/
structure Graph where
  cells : Array Cell
  root : Nat
  deriving Repr, Inhabited

namespace Graph

/-- The node with a number. -/
def cell (g : Graph) (i : Nat) : Cell := g.cells.getD i default

/-- The tag of the node with a number. -/
def tag (g : Graph) (i : Nat) : Tag := (g.cell i).tag

/-- The entries of the node with a number; a node that is no mapping has none. -/
def entries (g : Graph) (i : Nat) : List (Nat × Nat) :=
  match g.cell i with
  | .mapping _ entries _ => entries
  | _ => []

/-- Replaces a node. -/
def write (g : Graph) (i : Nat) (c : Cell) : Graph :=
  { g with cells := g.cells.setIfInBounds i c }

/-- Replaces the entries of a mapping. -/
def writeEntries (g : Graph) (i : Nat) (entries : List (Nat × Nat)) : Graph :=
  match g.cell i with
  | .mapping tag _ mark => g.write i (.mapping tag entries mark)
  | _ => g

/-- A key that is the mark of a default becomes a text. -/
def asKey (g : Graph) (i : Nat) : Graph :=
  match g.cell i with
  | .scalar .default text mark => g.write i (.scalar .str text mark)
  | .sequence .default items mark => g.write i (.sequence .str items mark)
  | .mapping .default entries mark => g.write i (.mapping .str entries mark)
  | _ => g

/-- The number of merge keys in a document. -/
def mergeCount (g : Graph) : Nat :=
  g.cells.foldl (fun n c => match c with
    | .mapping _ entries _ => n + (entries.filter fun e => g.tag e.1 == .merge).length
    | _ => n) 0

/-- Replaces the merge keys of a mapping, from a place among its entries on; `merged` are the
entries that the keys before it stand for. -/
def mergeFrom : Nat → (place : Nat) → (merged : List (Nat × Nat)) → (i : Nat) → Graph →
    Except Fault Graph
  | 0, _, _, _, _ => .error .malformed
  | n + 1, place, merged, i, g => do
    let entries := g.entries i
    let (own, rest) := (entries.drop place).span fun e => g.tag e.1 != .merge
    let g := own.foldl (fun g e => g.asKey e.1) g
    match rest with
    | [] => return if merged.isEmpty then g else g.writeEntries i (merged ++ entries)
    | (_, source) :: after =>
      let place := place + own.length
      let g := g.writeEntries i (entries.take place ++ after)
      match g.cell source with
      | .mapping .. =>
        let g ← mergeFrom n 0 [] source g
        mergeFrom n place (merged ++ g.entries source) i g
      | .sequence _ items _ =>
        let (g, more) ← items.foldlM (fun (g, more) item => do
          match g.cell item with
          | .mapping .. =>
            let g ← mergeFrom n 0 [] item g
            return (g, g.entries item ++ more)
          | _ => throw .malformed) (g, [])
        mergeFrom n place (merged ++ more) i g
      | .scalar .. => throw .malformed

/-- Replaces the merge keys of a mapping. -/
def merge (i : Nat) (g : Graph) : Except Fault Graph :=
  mergeFrom (g.mergeCount + 1) 0 [] i g

/-- The text of a node where a scalar is expected, at most a number of steps away: a mapping with a
default stands for that. -/
def textWithin (g : Graph) : Nat → Nat → Except Fault String
  | 0, _ => .error .endless
  | n + 1, i =>
    match g.cell i with
    | .scalar _ text _ => .ok text
    | .sequence .. => .error .malformed
    | .mapping _ entries _ =>
      match entries.find? fun e => g.tag e.1 == .default with
      | some (_, value) => textWithin g n value
      | none => .error .malformed

/-- The text of a node that stands for a scalar.  A day or a moment is no mapping. -/
def scalarText (g : Graph) (i : Nat) : Except Fault String := do
  if !(g.tag i).isScalar then throw .malformed
  let text ← g.textWithin (g.cells.size + 1) i
  match g.cell i with
  | .mapping .timestamp .. => throw .timestampInMapping
  | _ => return text

/-- A graph together with the texts of its nodes that stand for scalars, as far as they are
known. -/
structure Settled where
  graph : Graph
  texts : Array (Option String)

/-- What is known while the nodes are checked: besides the graph and the texts of scalars, the nodes
reached so far, and the collections to be opened on the next level, the last one first. -/
structure Survey extends Settled where
  reached : List Nat
  next : List Nat

namespace Survey

/-- The start: no node has been reached. -/
def start (g : Graph) : Survey :=
  { graph := g, texts := Array.replicate g.cells.size none, reached := [], next := [] }

/-- Checks a node: a scalar by its text; a collection is put off to the next level. -/
def reach (i : Nat) (s : Survey) : Except Fault Survey :=
  if s.reached.contains i then .ok s
  else
    let s := { s with reached := i :: s.reached }
    if (s.graph.tag i).isContainer then .ok { s with next := i :: s.next }
    else do
      let text ← s.graph.scalarText i
      let _ ← scalarValue (s.graph.tag i) text
      return { s with texts := s.texts.setIfInBounds i (some text) }

/-- Checks the entries of a mapping; no key may be a collection. -/
def reachEntries (s : Survey) (entries : List (Nat × Nat)) : Except Fault Survey :=
  entries.foldlM (fun s (key, value) => do
    let s ← s.reach key
    if (s.graph.tag key).isContainer then throw .malformed
    s.reach value) s

/-- Opens a collection and checks its parts.  A list of pairs is a sequence of mappings with one
entry each, the keys of which may be of any kind. -/
def openCell (s : Survey) (i : Nat) : Except Fault Survey :=
  match s.graph.cell i with
  | .sequence .seq items _ => items.foldlM (fun s item => s.reach item) s
  | .sequence .omap items _ | .sequence .pairs items _ =>
    items.foldlM (fun s item =>
      match s.graph.cell item with
      | .mapping _ [(key, value)] _ => do (← s.reach key).reach value
      | _ => .error .malformed) s
  | .mapping .map _ _ | .mapping .set _ _ => do
    let g ← s.graph.merge i
    { s with graph := g }.reachEntries (g.entries i)
  | _ => .error .malformed

/-- Checks the nodes level by level, until there is nothing to be opened. -/
def levels : Nat → Survey → Except Fault Survey
  | 0, s => .ok s
  | n + 1, s =>
    if s.next.isEmpty then .ok s
    else do
      let s ← s.next.reverse.foldlM openCell { s with next := [] }
      levels n s

end Survey

/-- The graph after all its nodes have been checked, or the first fault of them. -/
def settle (g : Graph) : Except Fault Settled := do
  let s ← Survey.reach g.root (.start g)
  let s ← Survey.levels (g.cells.size + 1) s
  return s.toSettled

end Graph

end BuildSpec.Yaml
