import BuildSpec.Proofs.Audit.References

/-!
# Settings inside settings

The settings for a configuration are settings in turn: they may include groups, and may hold
settings for configurations of their own.  The audit looks at the names of these configurations and
no further.  This file says what that leaves unseen:

* `defects_outline` — the audit of a spec is that of its outline, in which the settings for
  configurations are empty;
* `settings_without_defects_iff` — so what an audit without defects vouches for are the settings of
  the spec, of its groups and of its targets;
* `perConfig_group_is_not_looked_up` — and a missing group that is included for one configuration
  alone goes unnoticed.
-/

namespace BuildSpec

namespace Settings

/-- Settings inside settings, at any depth: those for a configuration, those for a configuration in
them, and so on. -/
inductive Contains (s : Settings) : Settings → Prop
  | here : Contains s s
  | inside {t u : Settings} {config : String} (h : Contains s t)
      (hmem : (config, u) ∈ t.configSettings) : Contains s u

/-- The settings without what they set for single configurations; the configurations are kept. -/
def outline (s : Settings) : Settings :=
  { s with configSettings := s.configSettings.map fun e => (e.1, .none) }

end Settings

namespace ProjectSpec

variable {spec : ProjectSpec}

/-- Every name in the settings themselves leads somewhere: a group is declared, and a configuration
is mentioned by the name of a declared one. -/
def IsResolved (spec : ProjectSpec) (s : Settings) : Prop :=
  (∀ group ∈ s.groups, spec.DeclaresGroup group) ∧
    ∀ config ∈ s.configSettings.map Prod.fst, spec.MentionsConfig config

/-- A spec in which settings hold no settings for configurations, only their names. -/
def outline (spec : ProjectSpec) : ProjectSpec :=
  { spec with
    settings := spec.settings.outline
    settingGroups := spec.settingGroups.map fun g => (g.1, g.2.outline)
    targets := spec.targets.map fun t => { t with settings := t.settings.outline } }

/-! ## Names that lead somewhere -/

/-- Settings are resolved if there is nothing wrong with them. -/
theorem isResolved_iff_no_flaw {s : Settings} : spec.IsResolved s ↔ ∀ d, ¬ spec.Flaw s d := by
  constructor
  · rintro ⟨hgroups, hconfigs⟩ d hflaw
    cases hflaw with
    | group hmem hundeclared => exact hundeclared (hgroups _ hmem)
    | config hmem hunmatched => exact hunmatched (hconfigs _ hmem)
  · intro hclean
    constructor
    · intro group hmem
      by_contra hundeclared
      exact hclean _ (Flaw.group hmem hundeclared)
    · intro config hmem
      by_contra hunmatched
      exact hclean _ (Flaw.config hmem hunmatched)

/-! ## The outline -/

theorem group?_outline (group : String) :
    spec.outline.group? group = (spec.group? group).map Settings.outline := by
  simp only [group?, outline]
  induction spec.settingGroups with
  | nil => rfl
  | cons g rest ih =>
      rw [List.map_cons, List.lookup_cons, List.lookup_cons]
      split
      · rfl
      · exact ih

theorem hasTarget_outline (name : String) : spec.outline.hasTarget name = spec.hasTarget name := by
  simp [hasTarget, outline, List.any_map, Function.comp_def]

theorem configSettingsFindings_outline (s : Settings) :
    spec.outline.configSettingsFindings s.outline = spec.configSettingsFindings s := by
  have hmentions : spec.outline.mentionsConfig = spec.mentionsConfig := rfl
  simp [configSettingsFindings, hmentions, Settings.outline, List.filter_map, Function.comp_def]

/-- A walk comes upon the same things in the outline. -/
theorem settingsFindings_outline (entered : List String) (s : Settings) :
    spec.outline.settingsFindings entered s.outline = spec.settingsFindings entered s := by
  -- the walk goes on into included groups, never into the settings for a configuration
  induction entered, s using settingsFindings.induct spec with
  | case1 entered s ih =>
      rw [settingsFindings_eq, settingsFindings_eq, configSettingsFindings_outline]
      congr 1
      apply List.flatMap_congr
      intro group _
      cases hdeclared : spec.group? group with
      | none => simp [groupFindings, group?_outline, hdeclared]
      | some content =>
          by_cases hentered : group ∈ entered
          · simp [groupFindings, group?_outline, hdeclared, hentered]
          · simp [groupFindings, group?_outline, hdeclared, hentered,
              ih group content hdeclared hentered]

theorem targetFindings_outline (target : Target) :
    spec.outline.targetFindings { target with settings := target.settings.outline } =
      spec.targetFindings target := by
  have hdependencies : spec.outline.dependencyFindings target = spec.dependencyFindings target := by
    simp only [dependencyFindings, hasTarget_outline]
  have hscheme : spec.outline.targetSchemeFindings target = spec.targetSchemeFindings target := by
    funext scheme
    simp only [targetSchemeFindings, hasTarget_outline]
    rfl
  rw [targetFindings, targetFindings, settingsFindings_outline, ← hdependencies, ← hscheme]
  rfl

theorem schemeFindings_outline (scheme : Scheme) :
    spec.outline.schemeFindings scheme = spec.schemeFindings scheme := by
  simp only [schemeFindings, hasTarget_outline]
  rfl

/-- The audit comes upon the same things in the outline of a spec. -/
theorem findings_outline (spec : ProjectSpec) : spec.outline.findings = spec.findings := by
  have hgroups : spec.outline.settingGroups.flatMap
        (fun g => spec.outline.settingsFindings [g.1] g.2) =
      spec.settingGroups.flatMap fun g => spec.settingsFindings [g.1] g.2 := by
    simp only [outline, List.flatMap_map]
    exact List.flatMap_congr fun g _ => settingsFindings_outline [g.1] g.2
  have htargets : spec.outline.targets.flatMap spec.outline.targetFindings =
      spec.targets.flatMap spec.targetFindings := by
    simp only [outline, List.flatMap_map]
    exact List.flatMap_congr fun t _ => targetFindings_outline t
  have hschemes : spec.outline.schemes.flatMap spec.outline.schemeFindings =
      spec.schemes.flatMap spec.schemeFindings :=
    List.flatMap_congr fun s _ => schemeFindings_outline s
  have hsettings : spec.outline.settingsFindings [] spec.outline.settings =
      spec.settingsFindings [] spec.settings := settingsFindings_outline [] spec.settings
  rw [findings, hsettings, hgroups, htargets, hschemes]
  rfl

/-- **The settings for configurations are of no account.**  A spec has the defects of its
outline. -/
theorem defects_outline (spec : ProjectSpec) (pathExists : String → Bool) :
    spec.outline.defects pathExists = spec.defects pathExists := by
  rw [defects, defects, findings_outline]

/-- **What an audit without defects of settings vouches for.**  The settings of the spec, of its
groups and of its targets are resolved, and nothing is said about the settings inside them. -/
theorem settings_without_defects_iff (spec : ProjectSpec) (pathExists : String → Bool) :
    ((∀ d ∈ spec.defects pathExists, d.isAboutSettings = false) ↔
        ∀ s ∈ spec.settingsValues, spec.IsResolved s) ∧
      spec.outline.defects pathExists = spec.defects pathExists := by
  refine ⟨?_, defects_outline spec pathExists⟩
  constructor
  · intro hnone s hs
    rw [isResolved_iff_no_flaw]
    intro d hflaw
    have hd : d.isAboutSettings = true := by cases hflaw <;> rfl
    have hmem : d ∈ spec.defects pathExists := (mem_defects_iff_flaw hd).mpr ⟨s, hs, hflaw⟩
    rw [hnone d hmem] at hd
    cases hd
  · intro hresolved d hmem
    rw [← Bool.not_eq_true]
    intro hd
    obtain ⟨s, hs, hflaw⟩ := (mem_defects_iff_flaw hd).mp hmem
    exact isResolved_iff_no_flaw.mp (hresolved s hs) d hflaw

/-- Settings that include a missing group for one configuration. -/
def perConfigSpec : ProjectSpec where
  name := "Tools"
  basePath := .here
  configs := Config.defaults
  settingGroups := []
  settings := ⟨[], [], [("Debug", ⟨[], ["Missing"], []⟩)]⟩
  targets := []
  schemes := []
  fileGroups := []
  configFiles := []
  minimumVersion := .null

/-- The missing group is not looked up, so an audit without defects does not say that all settings
in a spec are resolved. -/
theorem perConfig_group_is_not_looked_up :
    perConfigSpec.defects (fun _ => true) = [] ∧
      ∃ s ∈ perConfigSpec.settingsValues, ∃ t, s.Contains t ∧ ¬ perConfigSpec.IsResolved t := by
  constructor
  · have hmentions : perConfigSpec.mentionsConfig "Debug" = true := by decide +kernel
    have hfindings : perConfigSpec.findings = perConfigSpec.settingsFindings [] ⟨[], [], [("Debug",
        ⟨[], ["Missing"], []⟩)]⟩ := by
      simp [findings, configFilesFindings, perConfigSpec]
    simp [defects, hfindings, settingsFindings_eq, configSettingsFindings, hmentions]
  · refine ⟨perConfigSpec.settings, by simp [settingsValues], ⟨[], ["Missing"], []⟩, ?_, ?_⟩
    · exact Settings.Contains.inside .here (List.mem_singleton_self _)
    · intro hresolved
      have hdeclared := hresolved.1 "Missing" (List.mem_singleton_self _)
      simp [DeclaresGroup, perConfigSpec] at hdeclared

end ProjectSpec

end BuildSpec
