import BuildSpec.Schema.Issue
import BuildSpec.Schema.ProjectSpec
import BuildSpec.Spec.Read
import BuildSpec.SpecFile.Loader
import BuildSpec.Version

/-!
# Reading the spec in a file

The spec in a file is read in four steps, each of which may refuse it: the file is loaded, the tool
must be new enough, the data must obey the schema, and the data must have the shape of a spec.  The
third step may be left out.  Paths in the spec are relative to the directory of the file, and a
spec without a name is called after that directory.
-/

namespace BuildSpec.SpecFile

/-- The oldest version of the tool that data asks for; null if it asks for none.  Options that are
blank count as empty ones. -/
def declaredVersion (data : Entries) : Value :=
  let options := Value.field data "options"
  match if options.isBlank then .map [] else options with
  | .map options => Value.field options "minimumVersion"
  | _ => .null

/-- Reads the data of the file at a path as a spec. -/
def specOf (path : Path) (data : Entries) : Except ShapeFault ProjectSpec :=
  ProjectSpec.read path.parent path.parent.name (.map data)

/-- Why there is no spec to be had from a file. -/
inductive ReadFault where
  | load (fault : LoadFault)
  | version (path : Path) (verdict : Version.Verdict)
  | schema (path : Path) (issues : List Schema.Issue)
  | shape (fault : ShapeFault)
  /-- A whole number is too long for what has to be told about the data. -/
  | tooLong (fault : Number.LengthFault)

/-- An issue in the list of all issues. -/
def issueLine (issue : Schema.Issue) : String :=
  let place := if issue.pointer = "" then "/" else issue.pointer
  "  - " ++ issue.message ++ " (" ++ place ++ ")"

/-- The words for a fault; `wording` tells what is wrong with a malformed text. -/
def ReadFault.message (wording : Yaml.Wording) : ReadFault → String
  | load fault => fault.message wording
  | version path verdict => verdict.message Version.tool ++ " File: " ++ path.text
  | schema path issues =>
    "Schema validation failed for " ++ path.text ++ ":\n"
      ++ "\n".intercalate (issues.map issueLine)
  | shape fault => fault.message
  | tooLong fault => fault.message

/-- Reads the content of the file at a path as a spec. -/
def readContent (checkSchema : Bool) (path : Path) (content : Content) :
    Except ReadFault ProjectSpec := do
  let verdict ← (Version.check Version.tool (declaredVersion content.data)).mapError .tooLong
  if !verdict.isCompatible then throw (.version path verdict)
  let issues ←
    if checkSchema then (Schema.projectSpec.issues (.map content.data)).mapError .tooLong
    else pure []
  if !issues.isEmpty then throw (.schema path issues)
  (specOf path content.data).mapError .shape

/-- Reads the spec in the file at a path. -/
def readSpec (l : Loader) (tree : FileTree) (checkSchema : Bool) (path : Path) :
    Except ReadFault ProjectSpec × List Log.Record :=
  let load := l.load tree path
  let result := load.result.mapError .load >>= readContent checkSchema path
  let log := match result with
    | .ok spec => spec.readLog
    | .error _ => []
  (result, load.log ++ log)

end BuildSpec.SpecFile
