import BuildSpec.Proofs.Audit.SettingsWalk
import Mathlib.Data.Multiset.Bind
import Mathlib.Tactic.Abel

/-!
# References and defects

A spec refers to files, targets and configurations in twelve ways, and to setting groups and
configurations in its settings.  This file lists the references of a spec kind by kind, says when
one of them resolves, and shows that the audit reports exactly the others:

* `targetFindings_eq` and `schemeFindings_eq` — each check of the audit goes through its references
  one by one;
* `reported_flatMap_referenceFindings` — of some references, exactly those are reported that do not
  resolve;
* `auditedReferences_perm` — the order of the audit loses and repeats none of them;
* `defects_perm_unresolved_references` — the audit as a whole, together with the settings, of which
  a flat scan finds what the walk through included groups reports.
-/

namespace BuildSpec

/-- Whether a defect is one of settings. -/
def Defect.isAboutSettings : Defect → Bool
  | invalidSettingsGroup _ | invalidBuildSettingConfig _ => true
  | _ => false

/-- A reference outside of settings, with the part of the spec that it stands in. -/
inductive Reference where
  | fileGroup (path : String)
  /-- The file that a row of config files, that of a target or of the spec, has for a
  configuration. -/
  | configFile (target : Option String) (config path : String)
  /-- The configuration that a config file is for. -/
  | configFileName (config : String)
  | dependency (target reference : String)
  | source (target path : String)
  /-- A variant in the scheme of a target, which needs a configuration of each kind. -/
  | variant (target text : String) (kind : ConfigKind)
  /-- A kind of configuration that the scheme of a target needs because it has no variants. -/
  | generated (target : String) (kind : ConfigKind)
  | testTarget (target test : String)
  | script (target : String) (name : Option String) (path : String)
  | buildTarget (scheme target : String)
  | action (scheme config : String)
  deriving DecidableEq

namespace Reference

/-- The path of a reference to a file. -/
def path? : Reference → Option String
  | fileGroup path | configFile _ _ path | source _ path | script _ _ path => some path
  | _ => none

/-- What a reference amounts to if it leads nowhere. -/
def defect (base : Path) : Reference → Defect
  | fileGroup path => .invalidFileGroup path
  | configFile none config path => .invalidConfigFile path config
  | configFile (some target) config path => .invalidTargetConfigFile target path config
  | configFileName config => .invalidConfigFileConfig config
  | dependency target reference => .invalidTargetDependency target reference
  | source target path => .missingTargetSource target (base.join (.ofString path)).text
  | variant target text kind => .invalidTargetSchemeConfigVariant target text kind
  | generated target kind => .missingConfigKind target kind
  | testTarget target test => .invalidTargetSchemeTest target test
  | script target name path => .invalidBuildScriptPath target name path
  | buildTarget scheme target => .invalidSchemeTarget scheme target
  | action scheme config => .invalidSchemeConfig scheme config

/-- When a reference leads somewhere: a path to something on the disk, a name to a target or a
configuration that is called exactly so, and a variant to a configuration of the kind whose name
contains it, letter by letter. -/
def Resolves (spec : ProjectSpec) (pathExists : Path → String → Bool) : Reference → Prop
  | fileGroup path | configFile _ _ path | source _ path | script _ _ path =>
    pathExists spec.basePath path = true
  | configFileName config | action _ config => ∃ c ∈ spec.configs, c.name = config
  | dependency _ target | testTarget _ target | buildTarget _ target =>
    ∃ t ∈ spec.targets, t.name = target
  | variant _ text kind => ∃ c ∈ spec.configs, c.kind = kind ∧ text.toList <:+: c.name.toList
  | generated _ kind => ∃ c ∈ spec.configs, c.kind = kind

instance (spec : ProjectSpec) (pathExists : Path → String → Bool) (r : Reference) :
    Decidable (r.Resolves spec pathExists) := by
  cases r <;> unfold Resolves <;> infer_instance

/-- No reference of these kinds is one of settings. -/
theorem isAboutSettings_defect (base : Path) (r : Reference) :
    (r.defect base).isAboutSettings = false := by
  cases r with
  | configFile target => cases target <;> rfl
  | _ => rfl

/-- Whether a reference to a file resolves is up to the disk. -/
theorem resolves_of_path? (spec : ProjectSpec) (pathExists : Path → String → Bool)
    {r : Reference} {path : String} (h : r.path? = some path) :
    r.Resolves spec pathExists ↔ pathExists spec.basePath path = true := by
  cases r <;> simp_all [path?, Resolves]

/-- Whether any other reference resolves is up to the spec. -/
theorem resolves_of_path?_eq_none (spec : ProjectSpec) {r : Reference} (h : r.path? = none)
    (p q : Path → String → Bool) : r.Resolves spec p ↔ r.Resolves spec q := by
  cases r <;> simp_all [path?, Resolves]

end Reference

namespace ProjectSpec

open Reference

/-! ## The references of a spec -/

/-- The targets that a target depends on; other dependencies are no references. -/
def dependencyReferences (target : Target) : List Reference :=
  (target.dependencies.filter fun d => d.kind = .target).map fun d =>
    .dependency target.name d.reference

/-- The sources of a target. -/
def sourceReferences (target : Target) : List Reference :=
  target.sources.map (.source target.name)

/-- What the scheme of a target needs in configurations: of both kinds one for each variant, or one
at all if there are no variants. -/
def variantReferences (target : Target) : List Reference :=
  match target.scheme with
  | none => []
  | some scheme =>
    if scheme.configVariants = [] then ConfigKind.all.map (.generated target.name)
    else scheme.configVariants.flatMap fun v => ConfigKind.all.map (.variant target.name v)

/-- The targets that the scheme of a target tests. -/
def testReferences (target : Target) : List Reference :=
  match target.scheme with
  | none => []
  | some scheme => scheme.testTargets.map (.testTarget target.name)

/-- The scripts of a target that are in files; other scripts are no references. -/
def scriptReferences (target : Target) : List Reference :=
  (target.prebuildScripts ++ target.postbuildScripts).filterMap fun script =>
    match script.source with
    | .path path => some (.script target.name script.name path)
    | .inline _ => none

/-- The targets that a scheme builds. -/
def buildReferences (scheme : Scheme) : List Reference :=
  scheme.build.map fun b => .buildTarget scheme.name b.target

/-- The configurations of a scheme's actions. -/
def actionReferences (scheme : Scheme) : List Reference :=
  scheme.actions.map fun a => .action scheme.name a.2

variable (spec : ProjectSpec)

/-- The entries of all rows of config files, each with the target that the row belongs to. -/
def configFileEntries : List (Option String × String × String) :=
  spec.configFiles.map (none, ·)
    ++ spec.targets.flatMap fun t => t.configFiles.map (some t.name, ·)

/-- The references of a spec outside of settings, kind by kind. -/
def references : List Reference :=
  spec.fileGroups.map .fileGroup
    ++ spec.configFileEntries.map (fun e => .configFile e.1 e.2.1 e.2.2)
    ++ spec.configFileEntries.map (fun e => .configFileName e.2.1)
    ++ spec.targets.flatMap dependencyReferences
    ++ spec.targets.flatMap sourceReferences
    ++ spec.targets.flatMap variantReferences
    ++ spec.targets.flatMap testReferences
    ++ spec.targets.flatMap scriptReferences
    ++ spec.schemes.flatMap buildReferences
    ++ spec.schemes.flatMap actionReferences

/-- The defects of those among some references that do not resolve. -/
def unresolved (pathExists : Path → String → Bool) (references : List Reference) : List Defect :=
  (references.filter fun r => ¬ r.Resolves spec pathExists).map (Reference.defect spec.basePath)

/-- The settings that a spec, its groups and its targets consist of. -/
def settingsValues : List Settings :=
  spec.settings :: (spec.settingGroups.map Prod.snd ++ spec.targets.map Target.settings)

/-! ## The order of the audit -/

/-- The references in a row of config files, as the audit comes upon them. -/
def configFileReferences (target : Option String) (files : List (String × String)) :
    List Reference :=
  files.flatMap fun (config, path) => [.configFile target config path, .configFileName config]

/-- The references of a target, as the audit comes upon them. -/
def targetReferences (target : Target) : List Reference :=
  dependencyReferences target
    ++ configFileReferences (some target.name) target.configFiles
    ++ sourceReferences target
    ++ (variantReferences target ++ testReferences target)
    ++ scriptReferences target

/-- The references of a scheme, as the audit comes upon them. -/
def schemeReferences (scheme : Scheme) : List Reference :=
  buildReferences scheme ++ actionReferences scheme

/-- The references of a spec outside of settings, as the audit comes upon them. -/
def auditedReferences : List Reference :=
  spec.fileGroups.map .fileGroup
    ++ configFileReferences none spec.configFiles
    ++ spec.targets.flatMap targetReferences
    ++ spec.schemes.flatMap schemeReferences

/-- The findings in a reference: a question about a path, or a defect if a name leads nowhere. -/
def referenceFindings (r : Reference) : List Finding :=
  match r.path? with
  | some path => [.path path (r.defect spec.basePath)]
  | none => if r.Resolves spec (fun _ _ => true) then [] else [.defect (r.defect spec.basePath)]

variable {spec}

/-- The files of a row of config files and the configurations that they are for can be listed one
after the other. -/
theorem coe_configFileReferences (target : Option String) (files : List (String × String)) :
    (configFileReferences target files : Multiset Reference) =
      ↑(files.map fun e => Reference.configFile target e.1 e.2)
        + ↑(files.map fun e => Reference.configFileName e.1) := by
  induction files with
  | nil => rfl
  | cons e rest ih =>
      have hcons : configFileReferences target (e :: rest) =
          .configFile target e.1 e.2 :: .configFileName e.1 :: configFileReferences target rest :=
        rfl
      rw [hcons, ← Multiset.cons_coe, ← Multiset.cons_coe, ih]
      simp only [List.map_cons, ← Multiset.cons_coe, Multiset.cons_add, Multiset.add_cons]
      exact Multiset.cons_swap _ _ _

/-- The audit comes upon every reference as often as it stands in the spec. -/
theorem auditedReferences_perm (spec : ProjectSpec) :
    spec.auditedReferences.Perm spec.references := by
  -- as multisets, both are sums of the same parts
  rw [← Multiset.coe_eq_coe]
  simp only [auditedReferences, references, targetReferences, schemeReferences, configFileEntries,
    List.map_append, List.map_flatMap, List.map_map, Function.comp_def, ← Multiset.coe_add,
    ← Multiset.coe_bind, coe_configFileReferences, Multiset.bind_add]
  abel

/-! ## Findings of references -/

theorem hasTarget_iff {name : String} :
    spec.hasTarget name = true ↔ ∃ t ∈ spec.targets, t.name = name := by
  simp [hasTarget]

theorem hasConfig_iff {name : String} :
    spec.hasConfig name = true ↔ ∃ c ∈ spec.configs, c.name = name := by
  simp [hasConfig]

theorem hasConfigContaining_iff {fragment : String} {kind : ConfigKind} :
    spec.hasConfigContaining fragment kind = true ↔
      ∃ c ∈ spec.configs, c.kind = kind ∧ fragment.toList <:+: c.name.toList := by
  simp [hasConfigContaining, Text.occursIn_iff, and_comm]

theorem hasConfigKind_iff {kind : ConfigKind} :
    spec.hasConfigKind kind = true ↔ ∃ c ∈ spec.configs, c.kind = kind := by
  simp [hasConfigKind]

theorem referenceFindings_of_path? {r : Reference} {path : String} (h : r.path? = some path) :
    spec.referenceFindings r = [.path path (r.defect spec.basePath)] := by
  simp [referenceFindings, h]

theorem referenceFindings_of_path?_eq_none {r : Reference} (h : r.path? = none) :
    spec.referenceFindings r =
      if r.Resolves spec (fun _ _ => true) then [] else [.defect (r.defect spec.basePath)] := by
  simp [referenceFindings, h]

/-- Looking up names one after another leaves the names that are unknown. -/
theorem flatMap_referenceFindings_of_names {α : Type} (items : List α) (known : α → Bool)
    (r : α → Reference) (hname : ∀ a, (r a).path? = none)
    (hknown : ∀ a, known a = true ↔ (r a).Resolves spec fun _ _ => true) :
    (items.map r).flatMap spec.referenceFindings =
      (items.filter fun a => !known a).map fun a => .defect ((r a).defect spec.basePath) := by
  induction items with
  | nil => rfl
  | cons a rest ih =>
      rw [List.map_cons, List.flatMap_cons, ih, referenceFindings_of_path?_eq_none (hname a)]
      by_cases hres : (r a).Resolves spec fun _ _ => true
      · simp [hres, (hknown a).mpr hres]
      · have hunknown : known a = false := by
          rw [← Bool.not_eq_true]
          exact fun h => hres ((hknown a).mp h)
        simp [hres, hunknown]

/-- Asking about paths one after another. -/
theorem flatMap_referenceFindings_of_paths {α : Type} (items : List α) (path : α → String)
    (r : α → Reference) (hpath : ∀ a, (r a).path? = some (path a)) :
    (items.map r).flatMap spec.referenceFindings =
      items.map fun a => .path (path a) ((r a).defect spec.basePath) := by
  induction items with
  | nil => rfl
  | cons a rest ih =>
      rw [List.map_cons, List.flatMap_cons, ih, referenceFindings_of_path? (hpath a)]
      rfl

theorem dependencyFindings_eq (target : Target) :
    spec.dependencyFindings target =
      (dependencyReferences target).flatMap spec.referenceFindings := by
  rw [dependencyReferences, flatMap_referenceFindings_of_names _
    (fun d => spec.hasTarget d.reference) _ (fun _ => rfl) (fun _ => hasTarget_iff),
    List.filter_filter, dependencyFindings]
  simp only [Bool.and_comm]
  rfl

theorem configFilesFindings_eq (target : Option String) (files : List (String × String))
    (defect : String → String → Defect)
    (hdefect : ∀ config path,
      defect path config = (Reference.configFile target config path).defect spec.basePath) :
    spec.configFilesFindings files defect =
      (configFileReferences target files).flatMap spec.referenceFindings := by
  rw [configFilesFindings, configFileReferences, List.flatMap_assoc]
  congr 1
  funext ⟨config, path⟩
  dsimp only
  rw [List.flatMap_cons, List.flatMap_singleton, referenceFindings_of_path? rfl,
    referenceFindings_of_path?_eq_none rfl, hdefect]
  by_cases hconfig : spec.hasConfig config = true
  · have hres := hasConfig_iff.mp hconfig
    simp only [hconfig, Reference.Resolves, hres, if_true, List.cons_append, List.nil_append]
  · have hres := mt hasConfig_iff.mpr hconfig
    simp only [hconfig, Reference.Resolves, hres, if_false, List.cons_append, List.nil_append]
    rfl

theorem sourceFindings_eq (target : Target) :
    spec.sourceFindings target = (sourceReferences target).flatMap spec.referenceFindings := by
  rw [sourceReferences, flatMap_referenceFindings_of_paths _ id _ (fun _ => rfl), sourceFindings]
  rfl

theorem targetSchemeFindings_eq (target : Target) :
    (target.scheme.map (spec.targetSchemeFindings target)).getD [] =
      (variantReferences target ++ testReferences target).flatMap spec.referenceFindings := by
  cases hscheme : target.scheme with
  | none => simp [variantReferences, testReferences, hscheme]
  | some scheme =>
      have hvariant : ∀ variant : String,
          ((ConfigKind.all.filter fun k => !spec.hasConfigContaining variant k).map fun k =>
            Finding.defect (.invalidTargetSchemeConfigVariant target.name variant k)) =
          (ConfigKind.all.map (Reference.variant target.name variant)).flatMap
            spec.referenceFindings := by
        intro variant
        rw [flatMap_referenceFindings_of_names _ (spec.hasConfigContaining variant) _
          (fun _ => rfl) (fun _ => hasConfigContaining_iff)]
        rfl
      have hkinds :
          ((ConfigKind.all.filter fun k => !spec.hasConfigKind k).map fun k =>
            Finding.defect (.missingConfigKind target.name k)) =
          (ConfigKind.all.map (Reference.generated target.name)).flatMap
            spec.referenceFindings := by
        rw [flatMap_referenceFindings_of_names _ spec.hasConfigKind _
          (fun _ => rfl) (fun _ => hasConfigKind_iff)]
        rfl
      have htests :
          ((scheme.testTargets.filter fun test => !spec.hasTarget test).map fun test =>
            Finding.defect (.invalidTargetSchemeTest target.name test)) =
          (testReferences target).flatMap spec.referenceFindings := by
        rw [testReferences, hscheme, flatMap_referenceFindings_of_names _ spec.hasTarget _
          (fun _ => rfl) (fun _ => hasTarget_iff)]
        rfl
      rw [List.flatMap_append, ← htests]
      by_cases hempty : scheme.configVariants = []
      · simp [targetSchemeFindings, variantReferences, hscheme, hempty, ← hkinds]
      · simp [targetSchemeFindings, variantReferences, hscheme, hempty, hvariant,
          List.flatMap_assoc]

theorem scriptFindings_eq (spec : ProjectSpec) (target : Target) :
    scriptFindings target = (scriptReferences target).flatMap spec.referenceFindings := by
  rw [scriptFindings, scriptReferences]
  induction target.prebuildScripts ++ target.postbuildScripts with
  | nil => rfl
  | cons script rest ih =>
      cases hsource : script.source with
      | inline text => simp [hsource, ih]
      | path path =>
          simp only [List.filterMap_cons, hsource, List.flatMap_cons, ih,
            referenceFindings_of_path? (r := .script target.name script.name path) rfl]
          rfl

/-- What the audit of a target finds: its references, then its settings. -/
theorem targetFindings_eq (spec : ProjectSpec) (target : Target) :
    spec.targetFindings target =
      (targetReferences target).flatMap spec.referenceFindings
        ++ spec.settingsFindings [] target.settings := by
  rw [targetFindings, dependencyFindings_eq, sourceFindings_eq, targetSchemeFindings_eq,
    scriptFindings_eq spec,
    configFilesFindings_eq (some target.name) _ (.invalidTargetConfigFile target.name)
      (fun _ _ => rfl)]
  simp only [targetReferences, List.flatMap_append]

/-- What the audit of a scheme finds. -/
theorem schemeFindings_eq (spec : ProjectSpec) (scheme : Scheme) :
    spec.schemeFindings scheme = (schemeReferences scheme).flatMap spec.referenceFindings := by
  rw [schemeFindings, schemeReferences, buildReferences, actionReferences, List.flatMap_append,
    flatMap_referenceFindings_of_names _ (fun b : BuildTarget => spec.hasTarget b.target) _
      (fun _ => rfl) (fun _ => hasTarget_iff),
    flatMap_referenceFindings_of_names _ (fun a : SchemeAction × String => spec.hasConfig a.2) _
      (fun _ => rfl) (fun _ => hasConfig_iff)]
  rfl

/-! ## Reported defects -/

/-- The defects outside of settings that some findings amount to. -/
def reported (pathExists : String → Bool) (findings : List Finding) : List Defect :=
  (findings.filterMap (Finding.defect? pathExists)).filter fun d => !d.isAboutSettings

theorem reported_append (pathExists : String → Bool) (a b : List Finding) :
    reported pathExists (a ++ b) = reported pathExists a ++ reported pathExists b := by
  simp [reported]

theorem reported_flatMap {α : Type} (pathExists : String → Bool) (items : List α)
    (f : α → List Finding) :
    reported pathExists (items.flatMap f) = items.flatMap fun a => reported pathExists (f a) := by
  simp [reported, List.filterMap_flatMap, List.filter_flatMap]

/-- A walk through settings reports nothing outside of settings. -/
theorem reported_settingsFindings (pathExists : String → Bool) (entered : List String)
    (s : Settings) : reported pathExists (spec.settingsFindings entered s) = [] := by
  rw [reported, List.filter_eq_nil_iff]
  intro d hd
  obtain ⟨_, _, _, _, hflaw⟩ :=
    defect_mem_settingsFindings_iff.mp (mem_settingsDefects_iff.mp hd)
  cases hflaw <;> simp [Defect.isAboutSettings]

/-- Of some references, exactly those are reported that do not resolve. -/
theorem reported_flatMap_referenceFindings (pathExists : Path → String → Bool)
    (references : List Reference) :
    reported (pathExists spec.basePath) (references.flatMap spec.referenceFindings) =
      spec.unresolved pathExists references := by
  rw [reported_flatMap, unresolved]
  induction references with
  | nil => rfl
  | cons r rest ih =>
      rw [List.flatMap_cons, ih]
      cases hpath : r.path? with
      | some path =>
          rw [referenceFindings_of_path? hpath]
          by_cases hexists : pathExists spec.basePath path = true
          · have hres := (resolves_of_path? spec pathExists hpath).mpr hexists
            simp [reported, Finding.defect?, hexists, hres]
          · have hres := mt (resolves_of_path? spec pathExists hpath).mp hexists
            simp [reported, Finding.defect?, hexists, hres, isAboutSettings_defect]
      | none =>
          rw [referenceFindings_of_path?_eq_none hpath]
          have hsame := resolves_of_path?_eq_none spec hpath (fun _ _ => true) pathExists
          by_cases hres : r.Resolves spec pathExists
          · simp [reported, hsame, hres]
          · simp [reported, Finding.defect?, hsame, hres, isAboutSettings_defect]

theorem unresolved_append (pathExists : Path → String → Bool) (a b : List Reference) :
    spec.unresolved pathExists (a ++ b) =
      spec.unresolved pathExists a ++ spec.unresolved pathExists b := by
  simp [unresolved]

theorem unresolved_flatMap {α : Type} (pathExists : Path → String → Bool) (items : List α)
    (f : α → List Reference) :
    spec.unresolved pathExists (items.flatMap f) =
      items.flatMap fun a => spec.unresolved pathExists (f a) := by
  simp [unresolved, List.filter_flatMap, List.map_flatMap]

/-- The findings of an audit, check by check. -/
theorem findings_eq (spec : ProjectSpec) :
    spec.findings =
      spec.settingsFindings [] spec.settings
        ++ (spec.fileGroups.map Reference.fileGroup).flatMap spec.referenceFindings
        ++ (configFileReferences none spec.configFiles).flatMap spec.referenceFindings
        ++ spec.settingGroups.flatMap (fun g => spec.settingsFindings [g.1] g.2)
        ++ spec.targets.flatMap (fun t => (targetReferences t).flatMap spec.referenceFindings
            ++ spec.settingsFindings [] t.settings)
        ++ spec.schemes.flatMap (fun s => (schemeReferences s).flatMap spec.referenceFindings) := by
  rw [findings, configFilesFindings_eq none _ .invalidConfigFile (fun _ _ => rfl),
    flatMap_referenceFindings_of_paths spec.fileGroups id _ (fun _ => rfl),
    funext (targetFindings_eq spec), funext (schemeFindings_eq spec)]
  rfl

/-- The defects outside of settings are the unresolved references, in the order of the audit. -/
theorem filter_defects_eq (spec : ProjectSpec) (pathExists : Path → String → Bool) :
    ((spec.defects (pathExists spec.basePath)).filter fun d => !d.isAboutSettings) =
      spec.unresolved pathExists spec.auditedReferences := by
  have hgroups : reported (pathExists spec.basePath)
      (spec.settingGroups.flatMap fun g => spec.settingsFindings [g.1] g.2) = [] := by
    simp [reported_flatMap, reported_settingsFindings]
  have htargets : reported (pathExists spec.basePath)
      (spec.targets.flatMap fun t => (targetReferences t).flatMap spec.referenceFindings
        ++ spec.settingsFindings [] t.settings) =
      spec.unresolved pathExists (spec.targets.flatMap targetReferences) := by
    rw [reported_flatMap, unresolved_flatMap]
    congr 1
    funext t
    rw [reported_append, reported_flatMap_referenceFindings, reported_settingsFindings,
      List.append_nil]
  have hschemes : reported (pathExists spec.basePath)
      (spec.schemes.flatMap fun s => (schemeReferences s).flatMap spec.referenceFindings) =
      spec.unresolved pathExists (spec.schemes.flatMap schemeReferences) := by
    rw [← List.flatMap_assoc, reported_flatMap_referenceFindings]
  calc ((spec.defects (pathExists spec.basePath)).filter fun d => !d.isAboutSettings)
      = reported (pathExists spec.basePath) spec.findings := rfl
    _ = spec.unresolved pathExists spec.auditedReferences := by
        rw [findings_eq]
        simp only [reported_append, reported_settingsFindings, hgroups, htargets, hschemes,
          reported_flatMap_referenceFindings, auditedReferences, unresolved_append,
          List.append_nil, List.nil_append]

/-! ## Settings -/

/-- Included groups are among the settings of a spec. -/
theorem Route.mem_settingsValues {s t : Settings} {route : List String}
    (hroute : spec.Route s route t) (hs : s ∈ spec.settingsValues) :
    t ∈ spec.settingsValues := by
  induction hroute with
  | here s => exact hs
  | @enter s included t group route hmem hdeclared onward ih =>
      apply ih
      have hcontent : included ∈ spec.settingGroups.map Prod.snd :=
        List.mem_map.mpr ⟨(group, included), spec.mem_settingGroups hdeclared, rfl⟩
      exact List.mem_cons_of_mem _ (List.mem_append_left _ hcontent)

/-- What no reference outside of settings amounts to comes from one of the walks that the audit
starts: with no group entered, or from within a setting group. -/
theorem exists_walk_of_mem_findings {f : Finding} (hnone : ∀ r, f ∉ spec.referenceFindings r)
    (hfound : f ∈ spec.findings) :
    ∃ s ∈ spec.settingsValues, ∃ entered, f ∈ spec.settingsFindings entered s ∧
      (entered = [] ∨ ∃ group, (group, s) ∈ spec.settingGroups ∧ entered = [group]) := by
  rw [findings_eq] at hfound
  simp only [List.mem_append, List.mem_flatMap, hnone, and_false, exists_false, or_false,
    false_or] at hfound
  rcases hfound with (hsettings | ⟨g, hg, hgroup⟩) | ⟨t, ht, htarget⟩
  · exact ⟨spec.settings, by simp [settingsValues], [], hsettings, Or.inl rfl⟩
  · have hmem : g.2 ∈ spec.settingGroups.map Prod.snd := List.mem_map.mpr ⟨g, hg, rfl⟩
    exact ⟨g.2, by simp [settingsValues, hmem], [g.1], hgroup, Or.inr ⟨g.1, hg, rfl⟩⟩
  · have hmem : t.settings ∈ spec.targets.map Target.settings := List.mem_map.mpr ⟨t, ht, rfl⟩
    exact ⟨t.settings, by simp [settingsValues, hmem], [], htarget, Or.inl rfl⟩

/-- A defect of settings comes from a walk through settings of the spec. -/
theorem exists_walk_of_isAboutSettings {pathExists : String → Bool} {d : Defect}
    (hd : d.isAboutSettings = true) (hreported : d ∈ spec.defects pathExists) :
    ∃ s ∈ spec.settingsValues, ∃ entered, d ∈ spec.settingsDefects pathExists entered s := by
  obtain ⟨f, hfound, hf⟩ := List.mem_filterMap.mp hreported
  -- so the defect is none that a reference outside of settings amounts to
  have hnone : ∀ r, f ∉ spec.referenceFindings r := by
    intro r hr
    have hreference : d = r.defect spec.basePath := by
      unfold referenceFindings at hr
      split at hr
      · cases List.mem_singleton.mp hr
        simp only [Finding.defect?] at hf
        split at hf <;> simp_all
      · split at hr
        · cases hr
        · cases List.mem_singleton.mp hr
          exact (Option.some.inj hf).symm
    rw [hreference, isAboutSettings_defect] at hd
    cases hd
  obtain ⟨s, hs, entered, hwalk, -⟩ := exists_walk_of_mem_findings hnone hfound
  exact ⟨s, hs, entered, List.mem_filterMap.mpr ⟨f, hwalk, hf⟩⟩

/-- Settings of a spec are the start of a walk. -/
theorem mem_findings_of_mem_settingsValues {s : Settings} (hs : s ∈ spec.settingsValues)
    {f : Finding} (hfound : ∀ entered, f ∈ spec.settingsFindings entered s) :
    f ∈ spec.findings := by
  rw [findings_eq]
  simp only [List.mem_append, List.mem_flatMap]
  simp only [settingsValues, List.mem_cons, List.mem_append, List.mem_map] at hs
  rcases hs with rfl | ⟨g, hg, rfl⟩ | ⟨t, ht, rfl⟩
  · exact Or.inl (Or.inl (Or.inl (Or.inl (Or.inl (hfound [])))))
  · exact Or.inl (Or.inl (Or.inr ⟨g, hg, hfound [g.1]⟩))
  · exact Or.inl (Or.inr ⟨t, ht, Or.inr (hfound [])⟩)

/-- The walks through a spec's settings report what a flat scan of all settings finds. -/
theorem mem_defects_iff_flaw {pathExists : String → Bool} {d : Defect}
    (hd : d.isAboutSettings = true) :
    d ∈ spec.defects pathExists ↔ ∃ s ∈ spec.settingsValues, spec.Flaw s d := by
  constructor
  · intro hreported
    obtain ⟨s, hs, entered, hwalk⟩ := exists_walk_of_isAboutSettings hd hreported
    obtain ⟨route, t, hroute, -, hflaw⟩ :=
      defect_mem_settingsFindings_iff.mp (mem_settingsDefects_iff.mp hwalk)
    exact ⟨t, hroute.mem_settingsValues hs, hflaw⟩
  · rintro ⟨s, hs, hflaw⟩
    have hfound := mem_findings_of_mem_settingsValues hs hflaw.mem_settingsFindings
    exact List.mem_filterMap.mpr ⟨.defect d, hfound, rfl⟩

/-- **The audit reports exactly what is unresolved.**  Outside of settings there is one defect for
each reference that does not resolve, as often as it stands in the spec.  In settings, whatever is
wrong with the settings of the spec, of a group or of a target is reported, and nothing else. -/
theorem defects_perm_unresolved_references (spec : ProjectSpec)
    (pathExists : Path → String → Bool) :
    ((spec.defects (pathExists spec.basePath)).filter fun d => !d.isAboutSettings).Perm
        ((spec.references.filter fun r => ¬ r.Resolves spec pathExists).map
          (Reference.defect spec.basePath)) ∧
      ∀ d : Defect,
        (d ∈ spec.defects (pathExists spec.basePath) ∧ d.isAboutSettings = true) ↔
          ∃ s ∈ spec.settingsValues, spec.Flaw s d := by
  constructor
  · rw [filter_defects_eq]
    exact ((auditedReferences_perm spec).filter _).map _
  · intro d
    constructor
    · rintro ⟨hreported, hd⟩
      exact (mem_defects_iff_flaw hd).mp hreported
    · rintro ⟨s, hs, hflaw⟩
      have hd : d.isAboutSettings = true := by cases hflaw <;> rfl
      exact ⟨(mem_defects_iff_flaw hd).mpr ⟨s, hs, hflaw⟩, hd⟩

end ProjectSpec

end BuildSpec
