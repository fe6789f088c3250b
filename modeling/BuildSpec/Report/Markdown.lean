import BuildSpec.Report.Basic

/-!
# Reports as Markdown

A page has a line with totals, and a section for each file with a table of its problems.  A bar
would end a cell of the table, so bars in messages get a backslash in front.
-/

namespace BuildSpec.Report

/-- A number of things; their name gets an `s` unless there is exactly one. -/
def counted (n : Nat) (name : String) : String :=
  toString n ++ " " ++ name ++ (if n = 1 then "" else "s")

/-- A message with a backslash in front of each bar. -/
def escapeBars (message : List Char) : List Char :=
  message.flatMap fun c => if c = '|' then ['\\', c] else [c]

/-- The row of a table for a problem; what is unknown is a dash. -/
def row (severity : Severity) (p : Problem) : String :=
  let cells := [severity.text, (p.line.map toString).getD "-", p.kind.getD "-",
    String.ofList (escapeBars p.message.toList)]
  "| " ++ " | ".intercalate cells ++ " |\n"

/-- The head of a table of problems. -/
def tableHead : String := "| Severity | Location | Kind | Message |\n|---|---|---|---|\n"

/-- The section for a file. -/
def markdownSection (r : Report) : String :=
  let body :=
    if r.isSpotless then "No problems found.\n"
    else tableHead ++ String.join (r.problems.map fun (severity, p) => row severity p)
  "## \x60" ++ r.file.text ++ "\x60\n\n" ++ body ++ "\n"

/-- The line with totals. -/
def totals (reports : List Report) : String :=
  "Checked " ++ counted reports.length "spec file" ++ ": " ++ counted (errorCount reports) "error"
    ++ ", " ++ counted (warningCount reports) "warning" ++ ".\n"

/-- Reports as a page. -/
def markdown (reports : List Report) : String :=
  "# Project spec check report\n\n" ++ totals reports ++ "\n"
    ++ String.join (reports.map markdownSection)

end BuildSpec.Report
