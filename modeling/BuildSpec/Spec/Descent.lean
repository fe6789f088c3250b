import BuildSpec.Spec.Audit

/-!
# Audits on a limited stack

A walk through settings calls itself for every group that it enters.  Here an audit is run on a stack
that has room for a number of such calls, one inside another; an audit that needs more room comes to
nothing.  Besides what it finds, it tells of each call the groups through which the walk came.
-/

namespace BuildSpec

/-- What a walk comes to: the findings, and of each call that was made the groups through which the
walk had come, in the order of the calls. -/
structure Descent where
  findings : List Finding
  calls : List (List String)
  deriving DecidableEq, Repr

namespace ProjectSpec

variable (spec : ProjectSpec)

/-- What naming a group comes to in a call of the walk; `deeper` is what the walk calls for a group that
it enters. -/
def descendInto (deeper : List String → Settings → Option Descent) (entered : List String)
    (group : String) : Option Descent :=
  match spec.group? group with
  | none => some ⟨[.defect (.invalidSettingsGroup group)], []⟩
  | some included =>
    if group ∈ entered then some ⟨[.ring (entered ++ [group])], []⟩
    else deeper (entered ++ [group]) included

/-- One call of the walk, for settings that were reached through the groups `entered`. -/
def descendBy (deeper : List String → Settings → Option Descent) (entered : List String)
    (settings : Settings) : Option Descent := do
  let parts ← settings.groups.mapM (spec.descendInto deeper entered)
  return { findings := parts.flatMap Descent.findings ++ spec.configSettingsFindings settings
           calls := entered :: parts.flatMap Descent.calls }

/-- The walk through settings, if there is room for a number of calls below the first one. -/
def descend : Nat → List String → Settings → Option Descent
  | 0 => spec.descendBy fun _ _ => none
  | room + 1 => spec.descendBy (descend room)

/-- Audits a target. -/
def auditTargetWithin (room : Nat) (target : Target) : Option Descent := do
  let settings ← spec.descend room [] target.settings
  let references := spec.dependencyFindings target
    ++ spec.configFilesFindings target.configFiles (.invalidTargetConfigFile target.name)
    ++ spec.sourceFindings target
    ++ (target.scheme.map (spec.targetSchemeFindings target)).getD []
    ++ scriptFindings target
  return { settings with findings := references ++ settings.findings }

/-- Audits a whole spec. -/
def auditWithin (room : Nat) : Option Descent := do
  let settings ← spec.descend room [] spec.settings
  let groups ← spec.settingGroups.mapM fun g => spec.descend room [g.1] g.2
  let targets ← spec.targets.mapM (spec.auditTargetWithin room)
  return {
    findings := settings.findings
      ++ spec.fileGroups.map (fun group => .path group (.invalidFileGroup group))
      ++ spec.configFilesFindings spec.configFiles .invalidConfigFile
      ++ groups.flatMap Descent.findings
      ++ targets.flatMap Descent.findings
      ++ spec.schemes.flatMap spec.schemeFindings
    calls := settings.calls ++ groups.flatMap Descent.calls ++ targets.flatMap Descent.calls }

end ProjectSpec

end BuildSpec
