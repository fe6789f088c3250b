import BuildSpec.Yaml.Graph.Grammar
import BuildSpec.Yaml.SourceMap

/-!
# Reading documents

The data in a text, and the places of its elements.
-/

namespace BuildSpec.Yaml

/-- The value of the document in a text; an empty text is null. -/
def load (text : String) : Except Fault Value := do
  match ← Graph.ofText text with
  | none => return .null
  | some g => (← g.settle).tree.value

/-- The source map of a text.  It is empty for a malformed document; a fault of another kind is
reported.  There is none for a document in which a collection recurs inside itself. -/
def sourceMap (text : String) : Except Fault SourceMap :=
  match Graph.ofText text with
  | .ok (some g) => if g.tree.recurs then .error .bottomless else .ok g.tree.sourceMap
  | .ok none | .error .malformed => .ok []
  | .error fault => .error fault

end BuildSpec.Yaml
