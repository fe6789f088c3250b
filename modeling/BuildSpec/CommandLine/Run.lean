import BuildSpec.CommandLine.Arguments
import BuildSpec.RunSettings
import BuildSpec.SpecFile.Check
import BuildSpec.SpecFile.Discovery

/-!
# A run of the checker

A run reads its command line, finds the spec files, checks them and writes a report.  It succeeds
if at least one spec file was found and none of them has an error.  Here a run is a function of all
that it depends on; its outcome is what it writes to each of the two streams and its exit code.
-/

namespace BuildSpec.CommandLine

/-- What a run writes and how it ends. -/
structure Outcome where
  exitCode : Nat
  output : String
  errors : String
  deriving DecidableEq, Repr

/-- How the tool is called. -/
def usage : String :=
  "usage: project-spec-check [-h] [--format \x7bgithub-actions,human,json,markdown\x7d]\n"
    ++ "                          [--log-level LOG_LEVEL]\n"
    ++ "                          [paths ...]\n"

/-- What is written if help is asked for. -/
def helpText : String :=
  usage
    ++ "\nCheck project spec files for unresolved references and missing paths\n"
    ++ "\npositional arguments:\n"
    ++ "  paths                 Spec files or directories to check (default: current\n"
    ++ "                        directory)\n"
    ++ "\noptions:\n"
    ++ "  -h, --help            show this help message and exit\n"
    ++ "  --format \x7bgithub-actions,human,json,markdown\x7d\n"
    ++ "                        Output format (default: human)\n"
    ++ "  --log-level LOG_LEVEL\n"
    ++ "                        Logging level (default: from\n"
    ++ "                        PROJECT_SPEC_DESIGNER_LOG_LEVEL or WARNING)\n"

/-- The outcome of a run whose command line is at fault. -/
def usageOutcome (fault : UsageFault) : Outcome :=
  ⟨2, "", usage ++ "project-spec-check: error: " ++ fault.message ++ "\n"⟩

/-- A text as a line, unless it is empty. -/
def lineOf (text : String) : String := if text = "" then "" else text ++ "\n"

/-- The paths of a request; without any it is about the working directory. -/
def Request.roots (r : Request) : List Path :=
  (if r.paths.isEmpty then ["."] else r.paths).map .ofString

/-- All that a run depends on beside its command line: the environment, the files, the answers about
the paths that specs refer to, and the words for what is wrong with a malformed text. -/
structure World where
  environment : Environment
  tree : FileTree
  pathExists : Path → String → Bool
  wording : Yaml.Wording

namespace World

/-- The checks of the spec files that some paths lead to. -/
def checks (w : World) (keeps : Bool) (roots : List Path) : List SpecFile.Check :=
  SpecFile.checkFiles ⟨w.environment.sourceRoot, w.pathExists, w.wording⟩ w.tree (.fresh keeps)
    (SpecFile.find w.tree roots)

/-- The outcome of a request whose records of the log are routed in some way. -/
def answer (w : World) (keeps : Bool) (routing : Log.Routing) (r : Request) : Outcome :=
  let remarks := String.join ((SpecFile.remarks w.tree r.roots).map (· ++ "\n"))
  let checks := w.checks keeps r.roots
  if checks.isEmpty then ⟨1, "", remarks ++ "No project spec files found.\n"⟩
  else
    let reports := checks.map SpecFile.Check.report
    let log := checks.flatMap SpecFile.Check.log
    let isOk := reports.all Report.isOk
    let verdict :=
      if isOk && r.format = .human then "Spec check succeeded with no errors.\n" else ""
    { exitCode := if isOk then 0 else 1
      output := routing.written .output log ++ lineOf (r.format.write reports) ++ verdict
      errors := remarks ++ routing.written .error log }

/-- The outcome of a run, unless the words for its log levels are at fault. -/
def run (w : World) (arguments : List String) : Except Log.Fault Outcome := do
  match read arguments with
  | .error fault => return usageOutcome fault
  | .ok .help => return ⟨0, helpText, ""⟩
  | .ok (.request r) =>
    let settings := (RunSettings.ofEnvironment w.environment).withLogLevel r.logLevel
    return w.answer settings.cacheEnabled (← settings.routing) r

end World

end BuildSpec.CommandLine
