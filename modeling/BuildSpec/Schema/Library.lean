import BuildSpec.FileTree
import BuildSpec.Schema.ProjectSpec

/-!
# The schemas that come with the tool

Schemas are kept in one directory and are asked for by name; the name is the path of a schema from
there, without its ending.
-/

namespace BuildSpec.Schema

/-- The directory of schemas, seen from itself. -/
def directory : FileTree :=
  ⟨[(["schema"], .directory), (["schema", "project_spec.json"], .file (.ok []))], ["schema"]⟩

/-- The path of the schema with a name. -/
def pathOf (name : String) : Path := .ofString (name ++ ".json")

/-- The schema with a name. -/
def named? (name : String) : Option Value :=
  (directory.read? (pathOf name)).map fun _ => projectSpecData

end BuildSpec.Schema
