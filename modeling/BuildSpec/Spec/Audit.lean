import BuildSpec.Defect
import BuildSpec.Log
import BuildSpec.Text.Case
import BuildSpec.Text.Search

/-!
# Auditing a spec

The audit goes through a spec once, in a fixed order, and looks at every reference.  What it finds
does not depend on the disk: a name that leads nowhere is a defect, a path is a question that the
disk has to answer, and a group of settings that includes itself is remarked on.  Defects, questions
and remarks are read off one list of findings:

* `calls` — the paths that are asked about, in order;
* `defects` — the defects, given the answers;
* `remarks` — the rings of setting groups.

Settings include groups, which may include groups in turn.  Each group on the way is entered once,
so the walk ends after at most as many steps as there are groups (`openGroups_lt`).
-/

namespace BuildSpec

/-- Something that the audit comes upon. -/
inductive Finding where
  | defect (d : Defect)
  /-- A path, and the defect that it is if the path leads nowhere. -/
  | path (path : String) (d : Defect)
  /-- A chain of setting groups, each of which includes the next one; the last one stands in the
  chain before. -/
  | ring (chain : List String)
  deriving DecidableEq, Repr, Inhabited

namespace Finding

/-- The path that a finding asks about. -/
def path? : Finding → Option String
  | path p _ => some p
  | _ => none

/-- The defect that a finding amounts to, given which paths lead somewhere. -/
def defect? (pathExists : String → Bool) : Finding → Option Defect
  | defect d => some d
  | path p d => if pathExists p then none else some d
  | ring _ => none

/-- The chain of a ring. -/
def ring? : Finding → Option (List String)
  | ring chain => some chain
  | _ => none

end Finding

namespace ProjectSpec

variable (spec : ProjectSpec)

/-- Whether a configuration has a name that contains a text, upper and lower case being one. -/
def mentionsConfig (fragment : String) : Bool :=
  spec.configs.any fun c =>
    Text.occursIn (Text.lower fragment).toList (Text.lower c.name).toList

/-- Whether a configuration of a kind has a name that contains a text. -/
def hasConfigContaining (fragment : String) (kind : ConfigKind) : Bool :=
  spec.configs.any fun c => Text.occursIn fragment.toList c.name.toList && c.kind = kind

/-- Whether there is a configuration of a kind. -/
def hasConfigKind (kind : ConfigKind) : Bool := spec.configs.any fun c => c.kind = kind

/-- The number of setting groups that have not been entered. -/
def openGroups (entered : List String) : Nat :=
  (spec.settingGroups.filter fun g => !entered.contains g.1).length

/-- A group that is declared stands in the list of groups. -/
theorem mem_settingGroups {group : String} {settings : Settings}
    (declared : spec.group? group = some settings) : (group, settings) ∈ spec.settingGroups := by
  have mem : ∀ l : List (String × Settings), l.lookup group = some settings →
      (group, settings) ∈ l := by
    intro l
    induction l with
    | nil => simp
    | cons e rest ih =>
      obtain ⟨name, content⟩ := e
      intro h
      rw [List.lookup_cons] at h
      split at h
      · next heq => simp_all
      · exact List.mem_cons_of_mem _ (ih h)
  exact mem _ declared

/-- Entering a group leaves fewer of them. -/
theorem openGroups_lt {entered : List String} {group : String} {settings : Settings}
    (declared : spec.group? group = some settings) (fresh : group ∉ entered) :
    spec.openGroups (entered ++ [group]) < spec.openGroups entered := by
  have split : (spec.settingGroups.filter fun g => !(entered ++ [group]).contains g.1)
      = (spec.settingGroups.filter fun g => !entered.contains g.1).filter
          fun g => g.1 ≠ group := by
    rw [List.filter_filter]
    apply List.filter_congr
    intro g _
    simp [Bool.and_comm]
  rw [openGroups, openGroups, split, List.length_filter_lt_length_iff_exists]
  refine ⟨(group, settings), List.mem_filter.2 ⟨spec.mem_settingGroups declared, ?_⟩, by simp⟩
  simpa using fresh

/-- The configurations that settings are for, as far as no configuration is called so. -/
def configSettingsFindings (settings : Settings) : List Finding :=
  (settings.configSettings.filter fun e => !spec.mentionsConfig e.1).map fun e =>
    .defect (.invalidBuildSettingConfig e.1)

/-- The findings in settings, reached through the groups `entered`: those of the included groups
first, then those of the settings' own configurations. -/
def settingsFindings (entered : List String) (settings : Settings) : List Finding :=
  (settings.groups.flatMap fun group =>
    match _declared : spec.group? group with
    | none => [.defect (.invalidSettingsGroup group)]
    | some included =>
      if _fresh : group ∈ entered then [.ring (entered ++ [group])]
      else settingsFindings (entered ++ [group]) included)
    ++ spec.configSettingsFindings settings
termination_by spec.openGroups entered
decreasing_by exact spec.openGroups_lt ‹_› ‹_›

/-- The findings in a row of config files: of each one the path, then the configuration. -/
def configFilesFindings (files : List (String × String)) (defect : String → String → Defect) :
    List Finding :=
  files.flatMap fun (config, file) =>
    .path file (defect file config)
      :: (if spec.hasConfig config then [] else [.defect (.invalidConfigFileConfig config)])

/-- The findings in the dependencies of a target: only other targets are looked up. -/
def dependencyFindings (target : Target) : List Finding :=
  (target.dependencies.filter fun d => d.kind = .target && !spec.hasTarget d.reference).map
    fun d => .defect (.invalidTargetDependency target.name d.reference)

/-- The findings in the sources of a target, which are told with the base path in front. -/
def sourceFindings (target : Target) : List Finding :=
  target.sources.map fun source =>
    .path source
      (.missingTargetSource target.name (spec.basePath.join (.ofString source)).text)

/-- The findings in the scheme of a target: each variant needs a configuration of either kind with
a name that contains it; without variants, there must be a configuration of either kind. -/
def targetSchemeFindings (target : Target) (scheme : TargetScheme) : List Finding :=
  let variants := scheme.configVariants.flatMap fun variant =>
    (ConfigKind.all.filter fun kind => !spec.hasConfigContaining variant kind).map fun kind =>
      .defect (.invalidTargetSchemeConfigVariant target.name variant kind)
  let kinds :=
    if scheme.configVariants.isEmpty then
      (ConfigKind.all.filter fun kind => !spec.hasConfigKind kind).map fun kind =>
        .defect (.missingConfigKind target.name kind)
    else []
  let tests := (scheme.testTargets.filter fun test => !spec.hasTarget test).map fun test =>
    .defect (.invalidTargetSchemeTest target.name test)
  variants ++ kinds ++ tests

/-- The findings in the scripts of a target, of which those in files need their file. -/
def scriptFindings (target : Target) : List Finding :=
  (target.prebuildScripts ++ target.postbuildScripts).filterMap fun script =>
    match script.source with
    | .path path => some (.path path (.invalidBuildScriptPath target.name script.name path))
    | .inline _ => none

/-- The findings in a target. -/
def targetFindings (target : Target) : List Finding :=
  spec.dependencyFindings target
    ++ spec.configFilesFindings target.configFiles (.invalidTargetConfigFile target.name)
    ++ spec.sourceFindings target
    ++ (target.scheme.map (spec.targetSchemeFindings target)).getD []
    ++ scriptFindings target
    ++ spec.settingsFindings [] target.settings

/-- The findings in a scheme: the targets that it builds, then the configurations of its
actions. -/
def schemeFindings (scheme : Scheme) : List Finding :=
  (scheme.build.filter fun b => !spec.hasTarget b.target).map
      (fun b => .defect (.invalidSchemeTarget scheme.name b.target))
    ++ (scheme.actions.filter fun a => !spec.hasConfig a.2).map
      (fun a => .defect (.invalidSchemeConfig scheme.name a.2))

/-- All findings in a spec: its settings, file groups, config files, setting groups, targets and
schemes. -/
def findings : List Finding :=
  spec.settingsFindings [] spec.settings
    ++ spec.fileGroups.map (fun group => .path group (.invalidFileGroup group))
    ++ spec.configFilesFindings spec.configFiles .invalidConfigFile
    ++ spec.settingGroups.flatMap (fun g => spec.settingsFindings [g.1] g.2)
    ++ spec.targets.flatMap spec.targetFindings
    ++ spec.schemes.flatMap spec.schemeFindings

/-- The paths that the disk is asked about, in order. -/
def calls : List String := spec.findings.filterMap Finding.path?

/-- The defects of a spec, given which paths lead somewhere. -/
def defects (pathExists : String → Bool) : List Defect :=
  spec.findings.filterMap (Finding.defect? pathExists)

/-- The defects that remain if the questions are answered one after another by a list, a question
without an answer by no. -/
def defectsAnswered : List Finding → List Bool → List Defect
  | [], _ => []
  | .defect d :: rest, answers => d :: defectsAnswered rest answers
  | .ring _ :: rest, answers => defectsAnswered rest answers
  | .path _ _ :: rest, true :: answers => defectsAnswered rest answers
  | .path _ d :: rest, false :: answers => d :: defectsAnswered rest answers
  | .path _ d :: rest, [] => d :: defectsAnswered rest []

/-- The chains of setting groups that end where they have been before. -/
def rings : List (List String) := spec.findings.filterMap Finding.ring?

/-- The name under which the audit writes to the log. -/
def auditLogger : String := "project_spec_designer.validation.spec_validator"

/-- What an audit that finds some defects writes to the log. -/
def auditLog (count : Nat) : List Log.Record :=
  let remark (chain : List String) : Log.Record :=
    ⟨auditLogger, Log.warning,
      "Possible circular settings group reference: " ++ " -> ".intercalate chain⟩
  spec.rings.map remark ++
    [⟨auditLogger, Log.debug,
      "Validated spec '" ++ spec.name ++ "': " ++ toString spec.targets.length ++ " targets, "
        ++ toString spec.schemes.length ++ " schemes, " ++ toString count ++ " defects"⟩]

end ProjectSpec

end BuildSpec
