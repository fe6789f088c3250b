import BuildSpec.Spec.Audit

/-!
# Audits that ask as they go

The disk may change while a spec is audited, and the same question may get another answer when it
is asked again.  So an audit can also be run against whatever answers questions: each path is asked
about when the audit comes upon it, and the answer decides at once whether there is a defect.
Asking is an action of any kind; it may look at the disk, keep a state, or write down the question.
-/

namespace BuildSpec.ProjectSpec

variable {m : Type → Type} [Monad m]

/-- What several things come to, looked at one after another. -/
def inquireAll {α : Type} (items : List α) (f : α → m (List Defect)) : m (List Defect) :=
  List.flatten <$> items.mapM f

/-- The defects among findings that ask about no path. -/
def settled (findings : List Finding) : List Defect :=
  findings.filterMap (Finding.defect? fun _ => true)

variable (ask : Path → String → m Bool) (spec : ProjectSpec)

/-- Asks about a path; it is a defect if the path leads nowhere. -/
def inquirePath (path : String) (d : Defect) : m (List Defect) := do
  if ← ask spec.basePath path then return [] else return [d]

/-- Inquires into a row of config files: of each one the path, then the configuration. -/
def inquireConfigFiles (files : List (String × String)) (defect : String → String → Defect) :
    m (List Defect) :=
  inquireAll files fun (config, file) => do
    let missing ← spec.inquirePath ask file (defect file config)
    return missing
      ++ if spec.hasConfig config then [] else [.invalidConfigFileConfig config]

/-- Inquires into the sources of a target. -/
def inquireSources (target : Target) : m (List Defect) :=
  inquireAll target.sources fun source =>
    spec.inquirePath ask source
      (.missingTargetSource target.name (spec.basePath.join (.ofString source)).text)

/-- Inquires into the scripts of a target.  A script that is not in a file is not asked about. -/
def inquireScripts (target : Target) : m (List Defect) :=
  inquireAll (target.prebuildScripts ++ target.postbuildScripts) fun script =>
    match script.source with
    | .path path => spec.inquirePath ask path (.invalidBuildScriptPath target.name script.name path)
    | .inline _ => return []

/-- Inquires into a target. -/
def inquireTarget (target : Target) : m (List Defect) := do
  let dependencies := settled (spec.dependencyFindings target)
  let configFiles ←
    spec.inquireConfigFiles ask target.configFiles (.invalidTargetConfigFile target.name)
  let sources ← spec.inquireSources ask target
  let scheme := settled ((target.scheme.map (spec.targetSchemeFindings target)).getD [])
  let scripts ← spec.inquireScripts ask target
  let settings := settled (spec.settingsFindings [] target.settings)
  return dependencies ++ configFiles ++ sources ++ scheme ++ scripts ++ settings

/-- Inquires into a whole spec. -/
def inquire : m (List Defect) := do
  let settings := settled (spec.settingsFindings [] spec.settings)
  let fileGroups ← inquireAll spec.fileGroups fun group =>
    spec.inquirePath ask group (.invalidFileGroup group)
  let configFiles ← spec.inquireConfigFiles ask spec.configFiles .invalidConfigFile
  let groups := settled (spec.settingGroups.flatMap fun g => spec.settingsFindings [g.1] g.2)
  let targets ← inquireAll spec.targets (spec.inquireTarget ask)
  let schemes := settled (spec.schemes.flatMap spec.schemeFindings)
  return settings ++ fileGroups ++ configFiles ++ groups ++ targets ++ schemes

end BuildSpec.ProjectSpec
