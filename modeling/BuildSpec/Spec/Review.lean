import BuildSpec.Spec.Inquiry

/-!
# Audits that remark as they go

A ring of setting groups is no defect, but whoever runs the audit is told of it at the moment when a
walk through settings comes upon it.  A review is an audit that is run so.  Remarking is an action
of any kind: it may write to a log, count, or do nothing.
-/

namespace BuildSpec.ProjectSpec

variable {m : Type → Type} [Monad m]

/-- The defects that some findings amount to, given which paths lead somewhere. -/
def found (pathExists : String → Bool) (findings : List Finding) : List Defect :=
  findings.filterMap (Finding.defect? pathExists)

variable (remark : List String → m Unit) (spec : ProjectSpec)

/-- Reviews settings, reached through the groups `entered`.  A group that has been entered before is
remarked on, and not entered again. -/
def reviewSettings (entered : List String) (settings : Settings) : m (List Defect) := do
  let included ← inquireAll settings.groups fun group =>
    match _declared : spec.group? group with
    | none => return [.invalidSettingsGroup group]
    | some included =>
      if _fresh : group ∈ entered then do
        remark (entered ++ [group])
        return []
      else reviewSettings (entered ++ [group]) included
  return included ++ settled (spec.configSettingsFindings settings)
termination_by spec.openGroups entered
decreasing_by exact spec.openGroups_lt ‹_› ‹_›

variable (pathExists : String → Bool)

/-- Reviews a target. -/
def reviewTarget (target : Target) : m (List Defect) := do
  let references := found pathExists <|
    spec.dependencyFindings target
      ++ spec.configFilesFindings target.configFiles (.invalidTargetConfigFile target.name)
      ++ spec.sourceFindings target
      ++ (target.scheme.map (spec.targetSchemeFindings target)).getD []
      ++ scriptFindings target
  let settings ← spec.reviewSettings remark [] target.settings
  return references ++ settings

/-- Reviews a whole spec. -/
def review : m (List Defect) := do
  let settings ← spec.reviewSettings remark [] spec.settings
  let files := found pathExists <|
    spec.fileGroups.map (fun group => .path group (.invalidFileGroup group))
      ++ spec.configFilesFindings spec.configFiles .invalidConfigFile
  let groups ← inquireAll spec.settingGroups fun g => spec.reviewSettings remark [g.1] g.2
  let targets ← inquireAll spec.targets (spec.reviewTarget remark pathExists)
  let schemes := found pathExists (spec.schemes.flatMap spec.schemeFindings)
  return settings ++ files ++ groups ++ targets ++ schemes

end BuildSpec.ProjectSpec
