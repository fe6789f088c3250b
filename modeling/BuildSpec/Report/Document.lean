import BuildSpec.Report.Basic
import BuildSpec.Text.Json

/-!
# Reports as JSON documents

A document holds the number of files, errors and warnings, and the reports in full.  What is not
known about a problem is left out.
-/

namespace BuildSpec

open Text

/-- The member for something that may be unknown. -/
def Problem.member? {α : Type} (name : String) (write : α → Json) (x : Option α) :
    List (String × Json) :=
  (x.map fun x => (name, write x)).toList

/-- A problem as a document. -/
def Problem.document (p : Problem) : Json :=
  .object (("message", .text p.message) :: member? "line" .number p.line
    ++ member? "column" .number p.column ++ member? "yaml_path" .text p.pointer
    ++ member? "kind" .text p.kind)

namespace Report

/-- A report as a document. -/
def document (r : Report) : Json :=
  .object [("file", .text r.file.text),
    ("errors", .array (r.errors.map Problem.document)),
    ("warnings", .array (r.warnings.map Problem.document))]

/-- Reports as a document. -/
def summary (reports : List Report) : Json :=
  .object [("files", .number reports.length),
    ("errors", .number (errorCount reports)),
    ("warnings", .number (warningCount reports)),
    ("results", .array (reports.map document))]

/-- Reports as the text of a document. -/
def json (reports : List Report) : String := (summary reports).render

end Report

end BuildSpec
