import BuildSpec.Report.Document
import BuildSpec.Report.Markdown
import BuildSpec.Report.Plain

/-!
# The formats of reports

Reports can be written in four formats, which are chosen by name.
-/

namespace BuildSpec

/-- A format in which reports are written. -/
inductive ReportFormat where
  | workflow
  | human
  | json
  | markdown
  deriving DecidableEq, Repr

namespace ReportFormat

/-- The name of a format. -/
def name : ReportFormat → String
  | workflow => "github-actions"
  | human => "human"
  | json => "json"
  | markdown => "markdown"

/-- The formats, in the order of their names. -/
def all : List ReportFormat := [workflow, human, json, markdown]

/-- The format with a name. -/
def ofName? (s : String) : Option ReportFormat := all.find? fun f => f.name = s

/-- Reports in a format. -/
def write : ReportFormat → List Report → String
  | workflow => Report.workflow
  | human => Report.human
  | json => Report.json
  | markdown => Report.markdown

end ReportFormat

end BuildSpec
