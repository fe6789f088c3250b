import BuildSpec.Path

/-!
# Reports

A report tells what is wrong with one spec file: errors, and warnings, which do not count against
the file.  Each of them is a message, with as much as is known about the place, the element and the
kind of problem.

* `ofList_eq` — problems that are found one after another are told apart by their severity.
-/

namespace BuildSpec

/-- How bad a problem is. -/
inductive Severity where
  | error
  | warning
  deriving DecidableEq, Repr

/-- The word for a severity. -/
def Severity.text : Severity → String
  | error => "error"
  | warning => "warning"

/-- A problem in a spec file. -/
structure Problem where
  message : String
  line : Option Nat
  column : Option Nat
  pointer : Option String
  kind : Option String
  deriving DecidableEq, Repr, Inhabited

/-- A problem of which only the message and the kind are known. -/
def Problem.ofKind (kind message : String) : Problem := ⟨message, none, none, none, some kind⟩

/-- The problems of one spec file, each list in the order in which they were found. -/
structure Report where
  file : Path
  errors : List Problem
  warnings : List Problem
  deriving DecidableEq, Repr, Inhabited

namespace Report

/-- The report of a file without problems. -/
def empty (file : Path) : Report := ⟨file, [], []⟩

/-- The report with one more problem. -/
def add (r : Report) : Severity → Problem → Report
  | .error, p => { r with errors := r.errors ++ [p] }
  | .warning, p => { r with warnings := r.warnings ++ [p] }

/-- The report of a file from problems found one after another. -/
def ofList (file : Path) (problems : List (Severity × Problem)) : Report :=
  problems.foldl (fun r (severity, problem) => r.add severity problem) (empty file)

/-- Problems one after another go to the end of their lists. -/
theorem foldl_add (problems : List (Severity × Problem)) (r : Report) :
    problems.foldl (fun r (severity, problem) => r.add severity problem) r =
      ⟨r.file, r.errors ++ (problems.filter (·.1 = .error)).map Prod.snd,
        r.warnings ++ (problems.filter (·.1 = .warning)).map Prod.snd⟩ := by
  induction problems generalizing r with
  | nil => simp
  | cons p rest ih =>
      obtain ⟨severity, problem⟩ := p
      rw [List.foldl_cons, ih]
      cases severity with
      | error => simp [add]
      | warning => simp [add]

/-- A report keeps errors and warnings apart, each in their order. -/
theorem ofList_eq (file : Path) (problems : List (Severity × Problem)) :
    ofList file problems =
      ⟨file, (problems.filter (·.1 = .error)).map Prod.snd,
        (problems.filter (·.1 = .warning)).map Prod.snd⟩ := by
  rw [ofList, foldl_add]
  rfl

/-- The problems of a report: the errors, then the warnings. -/
def problems (r : Report) : List (Severity × Problem) :=
  r.errors.map (.error, ·) ++ r.warnings.map (.warning, ·)

/-- A report consists of the problems that were found. -/
theorem mem_problems_ofList {file : Path} {problems : List (Severity × Problem)}
    {p : Severity × Problem} : p ∈ (ofList file problems).problems ↔ p ∈ problems := by
  obtain ⟨severity, problem⟩ := p
  cases severity with
  | error => simp [ofList_eq, Report.problems]
  | warning => simp [ofList_eq, Report.problems]

/-- Whether a file has no errors. -/
def isOk (r : Report) : Bool := r.errors.isEmpty

/-- Whether a file has neither errors nor warnings. -/
def isSpotless (r : Report) : Bool := r.errors.isEmpty && r.warnings.isEmpty

/-- The number of errors in some reports. -/
def errorCount (reports : List Report) : Nat := (reports.flatMap errors).length

/-- The number of warnings in some reports. -/
def warningCount (reports : List Report) : Nat := (reports.flatMap warnings).length

end Report

end BuildSpec
