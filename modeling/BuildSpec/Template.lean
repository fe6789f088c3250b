import BuildSpec.FileTree
import BuildSpec.Report.Markdown

/-!
# Templates for pages

A page about reports is made from a template.  One template comes with the tool, the page in
Markdown; others are files that are taken as they are, and are looked for in a row of directories.
The name of a template may lead into a directory, but never out of one.
-/

namespace BuildSpec.Template

/-- The name of the template that comes with the tool. -/
def bundledName : String := "check_report.md.jinja2"

/-- Why no page can be made. -/
inductive Fault where
  | notFound
  /-- The file cannot be opened. -/
  | unreadable (words : String)
  | encoding (cause : Text.Utf8Fault)
  deriving DecidableEq, Repr

/-- The steps that the name of a template leads through. -/
def steps? (name : String) : Option (List String) :=
  let steps := Text.parts '/' name
  if ".." ∈ steps then none else some (steps.filter fun s => s ≠ "" ∧ s ≠ ".")

/-- The content of the first file that steps lead to from one of some directories. -/
def firstFile? (tree : FileTree) (steps : List String) (directories : List Path) :
    Option FileContent :=
  directories.findSome? fun d => tree.read? { d with names := d.names ++ steps }

/-- A page from the template with a name in one of some directories. -/
def renderFrom (tree : FileTree) (directories : List Path) (name : String) :
    Except Fault String := do
  match (steps? name).bind fun steps => firstFile? tree steps directories with
  | none => throw .notFound
  | some content =>
    let bytes ← content.mapError .unreadable
    (Text.readText bytes).mapError .encoding

/-- A page from the template that comes with the tool. -/
def renderBundled (name : String) (reports : List Report) : Except Fault String :=
  if steps? name = some [bundledName] then .ok (Report.markdown reports) else .error .notFound

end BuildSpec.Template
