import BuildSpec.Location
import BuildSpec.Report.Basic
import BuildSpec.Spec.Audit
import BuildSpec.SpecFile.Read

/-!
# Checking spec files

A spec file is checked in stages: it is loaded, the version that it asks for is compared with the
tool's, its data is held against the schema, and the spec in it is audited.  A stage that finds
problems is the last one.  Each problem is told at the place of its element or of the nearest
element around it.  Files are checked one after another with one loader; what is wrong with one
file does not keep the others from being checked.
-/

namespace BuildSpec.SpecFile

/-- What a check needs to know beyond the files themselves: the directory that is left out of shown
paths, whether a path that a spec with some base path refers to leads anywhere, and how the reader of
documents tells what is wrong with a malformed text. -/
structure Surroundings where
  sourceRoot : Option String
  pathExists : Path → String → Bool
  wording : Yaml.Wording

/-- The answers of a file system about paths. -/
def treeAnswers (tree : FileTree) (base : Path) (relative : String) : Bool :=
  tree.contains (base.join (.ofString relative))

/-- What a check of a file's content comes to: the problems, the records of the log, and the paths
that were asked about, each with its base path. -/
structure Inspection where
  problems : List (Severity × Problem)
  log : List Log.Record
  calls : List (Path × String)

/-- A problem of the element that a pointer leads to. -/
def problemAt (around : Surroundings) (path : Path) (places : SourceMap)
    (message pointer kind : String) : Problem :=
  let place := places.nearest pointer
  { message := message ++ Location.text around.sourceRoot ⟨some path, some pointer, place⟩
    line := place.line
    column := place.column
    pointer := if pointer = "" then none else some pointer
    kind := some kind }

/-- The problem of a file that the check cannot go on with for an unforeseen cause. -/
def internalProblem (cause : String) : Problem :=
  .ofKind "internal" ("Unexpected error during check: " ++ cause)

/-- The problem of a file that cannot be loaded. -/
def loadProblem (wording : Yaml.Wording) (fault : LoadFault) : Problem :=
  let message := fault.message wording
  if fault.isAboutFile then .ofKind "load" message else internalProblem message

/-- The problem of a file whose data has not the shape of a spec. -/
def shapeProblem : ShapeFault → Problem
  | .noItems kind => internalProblem (ShapeFault.noItems kind).message
  | .tooLong fault => internalProblem fault.message
  | fault => .ofKind "parse" fault.message

/-- Audits the spec in a file. -/
def inspectSpec (around : Surroundings) (path : Path) (places : SourceMap) (spec : ProjectSpec) :
    Inspection :=
  let problem := problemAt around path places
  let idle :=
    if spec.targets.isEmpty then
      [(Severity.warning, problem "Spec declares no targets" "/targets" "no_targets")]
    else []
  let defects := spec.defects (around.pathExists spec.basePath)
  let found := defects.map fun d => (Severity.error, problem d.description d.pointer d.kind)
  let done : Log.Record := ⟨"project_spec_designer.checker.spec_file_checker", Log.info,
    "Checked " ++ path.text ++ ": " ++ toString defects.length ++ " defects"⟩
  ⟨idle ++ found, spec.readLog ++ spec.auditLog defects.length ++ [done],
    spec.calls.map (spec.basePath, ·)⟩

/-- What a check comes to that stops at one problem. -/
def Inspection.ofProblem (problem : Problem) : Inspection := ⟨[(.error, problem)], [], []⟩

/-- Checks the shape of the data of the file at a path, and the spec in it. -/
def inspectData (around : Surroundings) (path : Path) (content : Content) : Inspection :=
  match Schema.projectSpec.issues (.map content.data) with
  | .error fault => .ofProblem (internalProblem fault.message)
  | .ok (issue :: issues) =>
    let problem := problemAt around path content.places
    ⟨(issue :: issues).map fun i => (.error, problem i.message i.pointer "schema"), [], []⟩
  | .ok [] =>
    match specOf path content.data with
    | .error fault => .ofProblem (shapeProblem fault)
    | .ok spec => inspectSpec around path content.places spec

/-- The oldest version of the tool that data asks for; null if it asks for none. -/
def minimumVersion (data : Entries) : Value :=
  match Value.field data "options" with
  | .map options => Value.field options "minimumVersion"
  | _ => .null

/-- Checks the content of the file at a path. -/
def inspect (around : Surroundings) (path : Path) (content : Content) : Inspection :=
  match Version.check Version.tool (minimumVersion content.data) with
  | .error fault => .ofProblem (internalProblem fault.message)
  | .ok verdict =>
    if verdict.isCompatible then inspectData around path content
    else
      .ofProblem (problemAt around path content.places (verdict.message Version.tool)
        "/options/minimumVersion" "version")

/-- What a check of a file comes to. -/
structure Check where
  loader : Loader
  report : Report
  log : List Log.Record
  calls : List (Path × String)

/-- Checks the file at a path. -/
def checkFile (around : Surroundings) (tree : FileTree) (l : Loader) (path : Path) : Check :=
  let load := l.load tree path
  let inspection : Inspection := match load.result with
    | .error fault => .ofProblem (loadProblem around.wording fault)
    | .ok content => inspect around path content
  { loader := load.loader
    report := .ofList path inspection.problems
    log := load.log ++ inspection.log
    calls := inspection.calls }

/-- Checks files one after another. -/
def checkFiles (around : Surroundings) (tree : FileTree) : Loader → List Path → List Check
  | _, [] => []
  | l, path :: rest =>
    let check := checkFile around tree l path
    check :: checkFiles around tree check.loader rest

end BuildSpec.SpecFile
