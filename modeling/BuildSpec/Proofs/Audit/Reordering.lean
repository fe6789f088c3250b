import BuildSpec.Proofs.Audit.Growth
import Mathlib.Data.List.Forall2

/-!
# The order in which a spec is written

Most of a spec is lists whose order says nothing: targets, schemes, groups, the groups that settings
include, what a target needs.  This file shows that the audit finds the same whatever that order is,
each thing as often as before:

* `Settings.Reordered`, `Target.Reordered`, `ProjectSpec.Reordered` — what may change places;
* `targetReferences_perm` and `schemeReferences_perm` — the references of a part;
* `settingsFindings_perm` — a walk takes the included groups in another order, but comes to each of
  them by the same ways;
* `defects_perm_of_reordered` — so the defects are the same ones, as often.
-/

namespace BuildSpec

/-- Two lists have the same items in any order, if each item may change as the relation allows. -/
def Rearranged {α : Type} (r : α → α → Prop) (l m : List α) : Prop :=
  ∃ changed, List.Forall₂ r l changed ∧ changed.Perm m

namespace Rearranged

variable {α β : Type} {r : α → α → Prop} {l m : List α}

theorem refl (hr : ∀ a, r a a) (l : List α) : Rearranged r l l :=
  ⟨l, List.forall₂_same.mpr fun a _ => hr a, List.Perm.refl l⟩

/-- What comes of the items one by one is the same in any order, if the changes make no more
difference than that. -/
theorem flatMap_perm (h : Rearranged r l m) {f g : α → List β}
    (hitems : ∀ a b, r a b → (f a).Perm (g b)) : (l.flatMap f).Perm (m.flatMap g) := by
  obtain ⟨changed, hchanged, hperm⟩ := h
  have hsame : (l.flatMap f).Perm (changed.flatMap g) := by
    clear hperm
    induction hchanged with
    | nil => exact List.Perm.refl _
    | cons hab _ ih => exact (hitems _ _ hab).append ih
  exact hsame.trans (hperm.flatMap_right g)

theorem map_perm (h : Rearranged r l m) {f : α → β} (hitems : ∀ a b, r a b → f a = f b) :
    (l.map f).Perm (m.map f) := by
  rw [List.map_eq_flatMap, List.map_eq_flatMap]
  apply h.flatMap_perm
  intro a b hab
  rw [hitems a b hab]

/-- Every item is still there, as far as it has not changed. -/
theorem exists_of_mem (h : Rearranged r l m) {a : α} (ha : a ∈ l) : ∃ b ∈ m, r a b := by
  obtain ⟨changed, hchanged, hperm⟩ := h
  have hfound : ∃ b ∈ changed, r a b := by
    clear hperm
    induction hchanged with
    | nil => cases ha
    | @cons a' b' rest rest' hab _ ih =>
        rcases List.mem_cons.mp ha with rfl | ha
        · exact ⟨b', List.mem_cons_self, hab⟩
        · obtain ⟨b, hb, hrel⟩ := ih ha
          exact ⟨b, List.mem_cons_of_mem _ hb, hrel⟩
  obtain ⟨b, hb, hrel⟩ := hfound
  exact ⟨b, hperm.mem_iff.mp hb, hrel⟩

end Rearranged

/-! ## What may change places -/

/-- Settings with the groups that they include and their settings for configurations in another
order, the same inside the settings for a configuration, and so on, again and again. -/
inductive Settings.Reordered : Settings → Settings → Prop
  | groups {s : Settings} {groups : List String} (h : s.groups.Perm groups) :
      Reordered s { s with groups }
  | configs {s : Settings} {configSettings : List (String × Settings)}
      (h : s.configSettings.Perm configSettings) : Reordered s { s with configSettings }
  | inside {s inner inner' : Settings} {config : String} {before after : List (String × Settings)}
      (hparts : s.configSettings = before ++ (config, inner) :: after)
      (h : Reordered inner inner') :
      Reordered s { s with configSettings := before ++ (config, inner') :: after }
  | trans {s t u : Settings} (hst : Reordered s t) (htu : Reordered t u) : Reordered s u

/-- The scheme of a target with its variants and its tests in another order. -/
structure TargetScheme.Reordered (s t : TargetScheme) : Prop where
  configVariants : s.configVariants.Perm t.configVariants
  testTargets : s.testTargets.Perm t.testTargets

/-- A target with everything that it lists in another order.  No script moves from before the build
to after it. -/
structure Target.Reordered (t u : Target) : Prop where
  name : u.name = t.name
  type : u.type = t.type
  platform : u.platform = t.platform
  sources : t.sources.Perm u.sources
  dependencies : t.dependencies.Perm u.dependencies
  configFiles : t.configFiles.Perm u.configFiles
  scheme : Option.Rel TargetScheme.Reordered t.scheme u.scheme
  prebuildScripts : t.prebuildScripts.Perm u.prebuildScripts
  postbuildScripts : t.postbuildScripts.Perm u.postbuildScripts
  settings : t.settings.Reordered u.settings

/-- A scheme with the targets that it builds in another order. -/
structure Scheme.Reordered (s t : Scheme) : Prop where
  name : t.name = s.name
  build : s.build.Perm t.build
  action? : ∀ action, t.action? action = s.action? action

/-- A spec with everything that it lists in another order, and so are its parts in themselves. -/
structure ProjectSpec.Reordered (spec other : ProjectSpec) : Prop where
  name : other.name = spec.name
  basePath : other.basePath = spec.basePath
  minimumVersion : other.minimumVersion = spec.minimumVersion
  configs : spec.configs.Perm other.configs
  settingGroups :
    Rearranged (fun g h => h.1 = g.1 ∧ g.2.Reordered h.2) spec.settingGroups other.settingGroups
  settings : spec.settings.Reordered other.settings
  targets : Rearranged Target.Reordered spec.targets other.targets
  schemes : Rearranged Scheme.Reordered spec.schemes other.schemes
  fileGroups : spec.fileGroups.Perm other.fileGroups
  configFiles : spec.configFiles.Perm other.configFiles

theorem Settings.Reordered.refl (s : Settings) : s.Reordered s := by
  cases s with
  | mk buildSettings groups configSettings => exact .groups (List.Perm.refl groups)

theorem Target.Reordered.refl (t : Target) : t.Reordered t where
  name := rfl
  type := rfl
  platform := rfl
  sources := List.Perm.refl _
  dependencies := List.Perm.refl _
  configFiles := List.Perm.refl _
  scheme := by
    cases t.scheme with
    | none => exact Option.Rel.none
    | some scheme => exact Option.Rel.some ⟨List.Perm.refl _, List.Perm.refl _⟩
  prebuildScripts := List.Perm.refl _
  postbuildScripts := List.Perm.refl _
  settings := .refl _

/-- Reordered settings name the same groups and configurations. -/
theorem Settings.Reordered.perm {s t : Settings} (h : s.Reordered t) :
    s.groups.Perm t.groups ∧
      (s.configSettings.map Prod.fst).Perm (t.configSettings.map Prod.fst) := by
  induction h with
  | groups h => exact ⟨h, List.Perm.refl _⟩
  | configs h => exact ⟨List.Perm.refl _, h.map _⟩
  | inside hparts _ _ => exact ⟨List.Perm.refl _, by simp [hparts]⟩
  | trans _ _ ihst ihtu => exact ⟨ihst.1.trans ihtu.1, ihst.2.trans ihtu.2⟩

namespace ProjectSpec

variable {spec other : ProjectSpec}

/-! ## References -/

/-- The scheme of a target asks for the same if it lists its variants and tests in another order. -/
theorem targetSchemeReferences_perm {t u : Target} (h : t.Reordered u) :
    (variantReferences t ++ testReferences t).Perm (variantReferences u ++ testReferences u) := by
  have hscheme := h.scheme
  rw [variantReferences, testReferences, variantReferences, testReferences, h.name]
  cases ht : t.scheme with
  | none =>
      cases hu : u.scheme with
      | none => exact List.Perm.refl _
      | some scheme => simp [ht, hu] at hscheme
  | some scheme =>
      cases hu : u.scheme with
      | none => simp [ht, hu] at hscheme
      | some scheme' =>
          obtain ⟨hvariants, htests⟩ : scheme.Reordered scheme' := by simpa [ht, hu] using hscheme
          have hempty : scheme.configVariants = [] ↔ scheme'.configVariants = [] := by
            constructor
            · intro h
              rwa [h, List.nil_perm] at hvariants
            · intro h
              rwa [h, List.perm_nil] at hvariants
          refine List.Perm.append ?_ (htests.map _)
          by_cases hnone : scheme.configVariants = []
          · simp [hnone, hempty.mp hnone]
          · simp only [hnone, mt hempty.mpr hnone, if_false]
            exact hvariants.flatMap_right _

/-- A target that is written in another order has the same references. -/
theorem targetReferences_perm {t u : Target} (h : t.Reordered u) :
    (targetReferences t).Perm (targetReferences u) := by
  have hdependencies : (dependencyReferences t).Perm (dependencyReferences u) := by
    rw [dependencyReferences, dependencyReferences, h.name]
    exact (h.dependencies.filter _).map _
  have hconfigFiles : (configFileReferences (some t.name) t.configFiles).Perm
      (configFileReferences (some u.name) u.configFiles) := by
    rw [h.name]
    exact h.configFiles.flatMap_right _
  have hsources : (sourceReferences t).Perm (sourceReferences u) := by
    rw [sourceReferences, sourceReferences, h.name]
    exact h.sources.map _
  have hscripts : (scriptReferences t).Perm (scriptReferences u) := by
    rw [scriptReferences, scriptReferences, h.name]
    exact (h.prebuildScripts.append h.postbuildScripts).filterMap _
  exact (((hdependencies.append hconfigFiles).append hsources).append
    (targetSchemeReferences_perm h)).append hscripts

/-- A scheme that is written in another order has the same references. -/
theorem schemeReferences_perm {s t : Scheme} (h : s.Reordered t) :
    (schemeReferences s).Perm (schemeReferences t) := by
  have hactions : t.actions = s.actions := by
    simp only [Scheme.actions, h.action?]
  rw [schemeReferences, schemeReferences, buildReferences, buildReferences, actionReferences,
    actionReferences, hactions, h.name]
  exact (h.build.map _).append_right _

/-- Names and paths lead to the same places in a spec that is written in another order. -/
theorem Reordered.referenceFindings_eq (h : spec.Reordered other) :
    other.referenceFindings = spec.referenceFindings := by
  have htargets : (spec.targets.map Target.name).Perm (other.targets.map Target.name) :=
    h.targets.map_perm fun _ _ ht => ht.name.symm
  funext r
  have hmore := referenceFindings_sublist h.basePath h.configs.subset htargets.subset r
  have hless :=
    referenceFindings_sublist h.basePath.symm h.configs.symm.subset htargets.symm.subset r
  exact hmore.antisymm hless

/-! ## The walk through settings -/

theorem Reordered.mentionsConfig_eq (h : spec.Reordered other) :
    other.mentionsConfig = spec.mentionsConfig := by
  funext fragment
  rw [Bool.eq_iff_iff]
  exact ⟨mentionsConfig_of_more h.configs.symm.subset, mentionsConfig_of_more h.configs.subset⟩

theorem Reordered.groupNames_perm (h : spec.Reordered other) :
    (spec.settingGroups.map Prod.fst).Perm (other.settingGroups.map Prod.fst) :=
  h.settingGroups.map_perm fun _ _ hg => hg.1.symm

/-- A name that stood for no group stands for none. -/
theorem Reordered.group?_eq_none (h : spec.Reordered other) {group : String}
    (hmissing : spec.group? group = none) : other.group? group = none := by
  rw [group?_eq_none_iff] at hmissing ⊢
  exact mt h.groupNames_perm.mem_iff.mpr hmissing

/-- A name stands for the same group, in another order. -/
theorem Reordered.exists_group? (h : spec.Reordered other) (hdistinct : spec.DistinctGroups)
    {group : String} {content : Settings} (hdeclared : spec.group? group = some content) :
    ∃ content', other.group? group = some content' ∧ content.Reordered content' := by
  have hdistinct' : other.DistinctGroups := h.groupNames_perm.nodup_iff.mp hdistinct
  have hmem := (group?_eq_some_iff hdistinct).mp hdeclared
  obtain ⟨⟨name, content'⟩, hmem', hname, hcontent⟩ := h.settingGroups.exists_of_mem hmem
  cases hname
  exact ⟨content', (group?_eq_some_iff hdistinct').mpr hmem', hcontent⟩

theorem configSettingsFindings_eq_keys (s : Settings) :
    spec.configSettingsFindings s =
      ((s.configSettings.map Prod.fst).filter fun config => !spec.mentionsConfig config).map
        fun config => .defect (.invalidBuildSettingConfig config) := by
  simp [configSettingsFindings, List.filter_map, Function.comp_def]

/-- A walk through reordered settings comes upon the same things, each as often.  The order of the
groups decides when a group is entered, but not by which ways. -/
theorem Reordered.settingsFindings_perm (h : spec.Reordered other)
    (hdistinct : spec.DistinctGroups) (entered : List String) {s t : Settings}
    (hst : s.Reordered t) :
    (spec.settingsFindings entered s).Perm (other.settingsFindings entered t) := by
  induction entered, s using settingsFindings.induct spec generalizing t with
  | case1 entered s ih =>
      obtain ⟨hgroups, hconfigs⟩ := hst.perm
      have hentry : ∀ group,
          (spec.groupFindings entered group).Perm (other.groupFindings entered group) := by
        intro group
        refine groupFindings_related (List.Perm.refl _) ?_ ?_
        · intro hmissing
          simp [groupFindings, h.group?_eq_none hmissing]
        · intro content hdeclared
          obtain ⟨content', hdeclared', hcontent⟩ := h.exists_group? hdistinct hdeclared
          exact ⟨content', hdeclared', fun hfresh => ih group content hdeclared hfresh hcontent⟩
      rw [settingsFindings_eq, settingsFindings_eq, configSettingsFindings_eq_keys,
        configSettingsFindings_eq_keys, h.mentionsConfig_eq]
      exact (hgroups.flatMap fun group _ => hentry group).append ((hconfigs.filter _).map _)

/-! ## The whole audit -/

/-- The audit of a reordered spec comes upon the same things, each as often. -/
theorem Reordered.findings_perm (h : spec.Reordered other) (hdistinct : spec.DistinctGroups) :
    spec.findings.Perm other.findings := by
  have hwalk := h.settingsFindings_perm hdistinct
  rw [findings_eq, findings_eq, h.referenceFindings_eq]
  refine (((((hwalk [] h.settings).append ?_).append ?_).append ?_).append ?_).append ?_
  · exact (h.fileGroups.map _).flatMap_right _
  · exact (h.configFiles.flatMap_right _).flatMap_right _
  · apply h.settingGroups.flatMap_perm
    rintro ⟨name, content⟩ ⟨name', content'⟩ ⟨hname, hcontent⟩
    cases hname
    exact hwalk [name] hcontent
  · apply h.targets.flatMap_perm
    intro t u htu
    exact ((targetReferences_perm htu).flatMap_right _).append (hwalk [] htu.settings)
  · apply h.schemes.flatMap_perm
    intro s t hst
    exact (schemeReferences_perm hst).flatMap_right _

/-- **The order of a spec says nothing.**  A spec that is written in another order has the same
defects, each of them as often, whatever is on the disk. -/
theorem defects_perm_of_reordered {spec other : ProjectSpec} (pathExists : Path → String → Bool)
    (hdistinct : spec.DistinctGroups) (h : spec.Reordered other) :
    (spec.defects (pathExists spec.basePath)).Perm (other.defects (pathExists other.basePath)) := by
  rw [h.basePath]
  exact (h.findings_perm hdistinct).filterMap _

/-- The groups of a ring in another order, with what one of them includes and what the spec includes
in another order too. -/
def sparseSpecReordered : ProjectSpec :=
  { sparseSpec with
    settingGroups := [("Tools", ⟨[], ["App"], []⟩), ("App", ⟨[], ["Base", "Tools"], []⟩)]
    settings := ⟨[], ["App", "Base"], [("Release", .none)]⟩ }

theorem sparseSpec_reordered : sparseSpec.Reordered sparseSpecReordered where
  name := rfl
  basePath := rfl
  minimumVersion := rfl
  configs := List.Perm.refl _
  settingGroups := by
    refine ⟨[("App", ⟨[], ["Base", "Tools"], []⟩), ("Tools", ⟨[], ["App"], []⟩)], ?_,
      List.Perm.swap _ _ _⟩
    exact .cons ⟨rfl, .groups (List.Perm.swap _ _ _)⟩ (.cons ⟨rfl, .refl _⟩ .nil)
  settings := .groups (List.Perm.swap _ _ _)
  targets := Rearranged.refl Target.Reordered.refl _
  schemes := ⟨[], .nil, List.Perm.refl _⟩
  fileGroups := List.Perm.refl _
  configFiles := List.Perm.refl _

/-- The missing group is asked for as often, and so on. -/
theorem sparseSpec_reordered_has_same_defects :
    sparseSpec.DistinctGroups ∧
      (sparseSpec.defects fun _ => false).Perm (sparseSpecReordered.defects fun _ => false) := by
  have hdistinct : sparseSpec.DistinctGroups := by simp [DistinctGroups, sparseSpec]
  exact ⟨hdistinct, defects_perm_of_reordered (fun _ _ => false) hdistinct sparseSpec_reordered⟩

end ProjectSpec

end BuildSpec
