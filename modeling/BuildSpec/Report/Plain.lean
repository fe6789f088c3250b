import BuildSpec.Report.Basic

/-!
# Reports line by line

For a reader at a terminal, the problems are listed below the name of their file.  For a workflow
that annotates files, each problem is a command that names the file and the line.
-/

namespace BuildSpec.Report

/-- The word for a severity in a list for a reader. -/
def heading : Severity → String
  | .error => "ERROR"
  | .warning => "WARNING"

/-- A problem in a list for a reader. -/
def humanLine (severity : Severity) (p : Problem) : String :=
  let place := match p.line with
    | some line => ":" ++ toString line
    | none => ""
  "  " ++ heading severity ++ place ++ ": " ++ p.message

/-- A file and its problems for a reader; a file without problems is left out. -/
def humanLines (r : Report) : List String :=
  if r.isSpotless then []
  else ("\n" ++ r.file.text ++ ":") :: r.problems.map fun (severity, p) => humanLine severity p

/-- Reports for a reader. -/
def human (reports : List Report) : String := "\n".intercalate (reports.flatMap humanLines)

/-- A problem as a command; a problem without a line is put on the first one. -/
def command (file : Path) (severity : Severity) (p : Problem) : String :=
  "::" ++ severity.text ++ " file=" ++ file.text ++ ",line=" ++ toString (p.line.getD 1) ++ "::"
    ++ p.message

/-- The commands for a file. -/
def commands (r : Report) : List String :=
  r.problems.map fun (severity, p) => command r.file severity p

/-- Reports as commands to a workflow. -/
def workflow (reports : List Report) : String := "\n".intercalate (reports.flatMap commands)

end BuildSpec.Report
