import BuildSpec.Proofs.Audit.References
import BuildSpec.Proofs.Text.Case

/-!
# Keys that are taken literally

The variants of a target's scheme are looked for in the names of configurations letter by letter,
the configurations that settings are for without regard to upper and lower case.  The second search
is meant to find whatever the first one does.  It compares lower cases, and the lower case of a key
may differ from that of the name around it:

* `neverReports_of_mentionsConfig` — a key that is found is not reported, in whatever settings;
* `literal_keys_are_accepted` — a key that stands in a name literally is found, unless one of its
  capital sigmas ends a word in only one of the two;
* `cut_word_is_reported` — a key that is a part of a word may end in such a sigma.
-/

namespace BuildSpec.ProjectSpec

variable {spec : ProjectSpec} {key : String}

/-- Settings are not reported for being for a configuration, be it in a walk through any settings or
in an audit of the spec. -/
def NeverReports (spec : ProjectSpec) (key : String) : Prop :=
  ∀ pathExists,
    (∀ entered s, .invalidBuildSettingConfig key ∉ spec.settingsDefects pathExists entered s) ∧
      .invalidBuildSettingConfig key ∉ spec.defects pathExists

/-- A key that a configuration's name mentions is no flaw of any settings. -/
theorem not_flaw_of_mentionsConfig (h : spec.MentionsConfig key) (s : Settings) :
    ¬ spec.Flaw s (.invalidBuildSettingConfig key) := by
  intro hflaw
  cases hflaw with
  | config _ hunmatched => exact hunmatched h

theorem neverReports_of_mentionsConfig (h : spec.MentionsConfig key) : spec.NeverReports key := by
  intro pathExists
  constructor
  · intro entered s hreported
    obtain ⟨_, t, _, _, hflaw⟩ :=
      defect_mem_settingsFindings_iff.mp (mem_settingsDefects_iff.mp hreported)
    exact not_flaw_of_mentionsConfig h t hflaw
  · intro hreported
    obtain ⟨s, _, hflaw⟩ := (mem_defects_iff_flaw rfl).mp hreported
    exact not_flaw_of_mentionsConfig h s hflaw

/-- A name mentions what stands in it literally, if the sigmas keep their form. -/
theorem mentionsConfig_of_sigmasKeep {c : Config} (hc : c ∈ spec.configs) {before after : List Char}
    (hname : c.name.toList = before ++ key.toList ++ after)
    (hsigmas : Text.SigmasKeep before key.toList after) : spec.MentionsConfig key := by
  refine ⟨c, hc, ?_⟩
  rw [Text.lower, Text.lower, String.toList_ofList, String.toList_ofList, hname]
  exact Text.lower_infix hsigmas

/-- **Keys that would do as variants are accepted.**  Settings for a configuration are not reported
if the key stands literally in the name of a configuration, and each capital sigma in the key ends a
word there exactly if it does so in the key; if there is no capital sigma in the key, they are never
reported. -/
theorem literal_keys_are_accepted (spec : ProjectSpec) (key : String) (kind : ConfigKind)
    (haccepted : spec.hasConfigContaining key kind = true) :
    ('Σ' ∉ key.toList → spec.NeverReports key) ∧
      ∀ c ∈ spec.configs, ∀ before after, c.name.toList = before ++ key.toList ++ after →
        Text.SigmasKeep before key.toList after → spec.NeverReports key := by
  constructor
  · intro hnone
    obtain ⟨c, hc, -, before, after, hname⟩ := hasConfigContaining_iff.mp haccepted
    have hsigmas := Text.sigmasKeep_of_notMem hnone before after
    exact neverReports_of_mentionsConfig (mentionsConfig_of_sigmasKeep hc hname.symm hsigmas)
  · intro c hc before after hname hsigmas
    exact neverReports_of_mentionsConfig (mentionsConfig_of_sigmasKeep hc hname hsigmas)

/-- Settings for a configuration whose name goes on after the key. -/
def cutWordSpec : ProjectSpec where
  name := "Tools"
  basePath := .here
  configs := [⟨"ΒΑΣΗ", .debug⟩]
  settingGroups := []
  settings := ⟨[], [], [("ΒΑΣ", .none)]⟩
  targets := []
  schemes := []
  fileGroups := []
  configFiles := []
  minimumVersion := .null

/-- A key that goes on to the end of the word has the sigma of the name. -/
theorem rest_of_word_is_accepted :
    cutWordSpec.hasConfigContaining "ΑΣΗ" .debug = true ∧ cutWordSpec.NeverReports "ΑΣΗ" := by
  have haccepted : cutWordSpec.hasConfigContaining "ΑΣΗ" .debug = true := by decide +kernel
  refine ⟨haccepted, ?_⟩
  refine (literal_keys_are_accepted cutWordSpec "ΑΣΗ" .debug haccepted).2 ⟨"ΒΑΣΗ", .debug⟩
    (List.mem_singleton_self _) ['Β'] [] rfl ?_
  exact Text.lowerBetween_eq_lowerAfter_iff.mp (by decide +kernel)

/-- The sigma that ends a key, but not the word that the key is cut out of, becomes another letter:
the key would do as a variant, but settings for it are reported. -/
theorem cut_word_is_reported :
    cutWordSpec.hasConfigContaining "ΒΑΣ" .debug = true ∧
      "ΒΑΣ" ∈ cutWordSpec.settings.configSettings.map Prod.fst ∧
      cutWordSpec.settingsDefects (fun _ => true) [] cutWordSpec.settings =
        [.invalidBuildSettingConfig "ΒΑΣ"] := by
  have haccepted : cutWordSpec.hasConfigContaining "ΒΑΣ" .debug = true := by decide +kernel
  have hunmentioned : cutWordSpec.mentionsConfig "ΒΑΣ" = false := by decide +kernel
  have hfindings : cutWordSpec.settingsFindings [] ⟨[], [], [("ΒΑΣ", .none)]⟩ =
      [.defect (.invalidBuildSettingConfig "ΒΑΣ")] := by
    simp [settingsFindings_eq, configSettingsFindings, hunmentioned]
  refine ⟨haccepted, List.mem_singleton_self _, ?_⟩
  exact congrArg (List.filterMap (Finding.defect? fun _ => true)) hfindings

end BuildSpec.ProjectSpec
