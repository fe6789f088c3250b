import BuildSpec.Proofs.Schema.Rules
import BuildSpec.Schema.ProjectSpec
import BuildSpec.Spec.Basic

/-!
# The shape of a spec's data

The schema of project specs in other words: which parts of the data are mappings, lists and texts,
and which keys a part must have.  Parts that are not mentioned may be anything, and so may keys that
are no texts.

* `projectSpec_eq` — the schema as it is read from its document, with all that it refers to;
* `Shape.Spec` — the shape that it describes, where settings may hold settings to any depth;
* `Shape.Spec.of_issues_eq_nil` — data without issues has the shape.
-/

namespace BuildSpec

/-! ## Shapes -/

namespace Shape

open Value

/-- A text. -/
def Text (v : Value) : Prop := ∃ s, v = .text s

/-- A mapping whose entries have a property. -/
def Mapping (p : Entries → Prop) (v : Value) : Prop := ∃ entries, v = .map entries ∧ p entries

/-- A mapping of any kind. -/
def AnyMapping : Value → Prop := Mapping fun _ => True

/-- A mapping in which every value has a shape. -/
def Values (p : Value → Prop) : Value → Prop := Mapping fun entries => ∀ e ∈ entries, p e.2

/-- A list in which every item has a shape. -/
def Items (p : Value → Prop) (v : Value) : Prop := ∃ items, v = .list items ∧ ∀ item ∈ items, p item

/-- The value under a text key, if there is one, has a shape. -/
def Field (entries : Entries) (key : String) (p : Value → Prop) : Prop :=
  ∀ v, field? entries key = some v → p v

/-- Settings: base settings, included groups, and settings for configurations, which are settings
again or null. -/
inductive Settings : Value → Prop where
  | intro {entries : Entries}
      (base : Field entries "base" AnyMapping)
      (groups : Field entries "groups" (Items Text))
      (configs : Field entries "configs" AnyMapping)
      (inner : ∀ inside, field? entries "configs" = some (.map inside) →
        ∀ e ∈ inside, e.2 ≠ .null → Settings e.2) :
      Settings (.map entries)

/-- A script: with a path or a text, and perhaps a name. -/
structure Script (entries : Entries) : Prop where
  name : Field entries "name" Text
  path : Field entries "path" Text
  script : Field entries "script" Text
  source : hasField entries "path" = true ∨ hasField entries "script" = true

/-- A dependency has a key for one of the kinds. -/
def Dependency (entries : Entries) : Prop :=
  ∃ kind : DependencyKind, hasField entries kind.text = true

/-- A source: a text, or a mapping with a path. -/
def Source (v : Value) : Prop :=
  Text v ∨ Mapping (fun entries => ∃ path, field? entries "path" = some path ∧ Text path) v

/-- The scheme of a target. -/
structure TargetScheme (entries : Entries) : Prop where
  configVariants : Field entries "configVariants" (Items Text)
  testTargets : Field entries "testTargets" (Items Text)

/-- A target. -/
structure Target (entries : Entries) : Prop where
  type : Field entries "type" Text
  platform : Field entries "platform" Text
  sources : Field entries "sources" fun v => Text v ∨ Items Source v
  dependencies : Field entries "dependencies" (Items (Mapping Dependency))
  configFiles : Field entries "configFiles" (Values Text)
  scheme : Field entries "scheme" (Mapping TargetScheme)
  prebuildScripts : Field entries "prebuildScripts" (Items (Mapping Script))
  postbuildScripts : Field entries "postbuildScripts" (Items (Mapping Script))
  settings : Field entries "settings" Settings

/-- An action of a scheme names a configuration. -/
def Action (entries : Entries) : Prop :=
  ∃ config, field? entries "config" = some config ∧ Text config

/-- What a scheme builds. -/
def Build (entries : Entries) : Prop :=
  Field entries "targets" (Values fun v => Text v ∨ Items Text v)

/-- A scheme. -/
structure Scheme (entries : Entries) : Prop where
  build : Field entries "build" (Mapping Build)
  action : ∀ a : SchemeAction, Field entries a.text (Mapping Action)

/-- The word for a kind of configuration. -/
def ConfigWord (v : Value) : Prop := ∃ kind : ConfigKind, v = .text kind.text

/-- The data of a spec. -/
structure Spec (entries : Entries) : Prop where
  name : Field entries "name" Text
  options : Field entries "options" (Mapping fun options => Field options "minimumVersion" Text)
  configs : Field entries "configs" (Values ConfigWord)
  settings : Field entries "settings" Settings
  settingGroups : Field entries "settingGroups" (Values Settings)
  settingPresets : Field entries "settingPresets" (Values Settings)
  fileGroups : Field entries "fileGroups" (Items Text)
  configFiles : Field entries "configFiles" (Values Text)
  targets : Field entries "targets" (Values (Mapping Target))
  schemes : Field entries "schemes" (Values (Mapping Scheme))

end Shape

namespace Schema

/-! ## The rules of the schema -/

/-- The rules for a text. -/
def textRules : List Rule := [.kinds ["string"]]

/-- The rules for a list of texts. -/
def stringListRules : List Rule := [.kinds ["array"], .items textRules]

/-- The rules for config files. -/
def configFilesRules : List Rule := [.kinds ["object"], .otherProperties [] textRules]

/-- The rules for the settings of configurations. -/
def configSettingsRules : List Rule :=
  [.kinds ["object"],
    .otherProperties [] [.anyOf [[.reference "#/definitions/settings"], [.kinds ["null"]]]]]

/-- The rules for settings. -/
def settingsRules : List Rule :=
  [.kinds ["object"],
    .properties [
      ("base", [.kinds ["object"]]),
      ("groups", [.reference "#/definitions/stringList"]),
      ("configs", configSettingsRules)]]

/-- The rules for a script. -/
def buildScriptRules : List Rule :=
  [.kinds ["object"],
    .properties [("name", textRules), ("path", textRules), ("script", textRules)],
    .anyOf [[.required ["path"]], [.required ["script"]]]]

/-- The rules for scripts. -/
def buildScriptsRules : List Rule :=
  [.kinds ["array"], .items [.reference "#/definitions/buildScript"]]

/-- The rules for a dependency. -/
def dependencyRules : List Rule :=
  [.kinds ["object"],
    .anyOf [[.required ["target"]], [.required ["framework"]], [.required ["carthage"]],
      [.required ["sdk"]], [.required ["package"]]]]

/-- The rules for a source that is a mapping. -/
def sourceMappingRules : List Rule :=
  [.kinds ["object"], .required ["path"], .properties [("path", textRules)]]

/-- The rules for sources. -/
def sourcesRules : List Rule :=
  [.anyOf [textRules, [.kinds ["array"], .items [.anyOf [textRules, sourceMappingRules]]]]]

/-- The rules for the scheme of a target. -/
def targetSchemeRules : List Rule :=
  [.kinds ["object"],
    .properties [
      ("configVariants", [.reference "#/definitions/stringList"]),
      ("testTargets", [.reference "#/definitions/stringList"])]]

/-- The rules for a target. -/
def targetRules : List Rule :=
  [.kinds ["object"],
    .properties [
      ("type", textRules),
      ("platform", textRules),
      ("sources", [.reference "#/definitions/sources"]),
      ("dependencies", [.kinds ["array"], .items [.reference "#/definitions/dependency"]]),
      ("configFiles", [.reference "#/definitions/configFiles"]),
      ("scheme", targetSchemeRules),
      ("prebuildScripts", [.reference "#/definitions/buildScripts"]),
      ("postbuildScripts", [.reference "#/definitions/buildScripts"]),
      ("settings", [.reference "#/definitions/settings"])]]

/-- The rules for an action of a scheme. -/
def buildActionRules : List Rule :=
  [.kinds ["object"], .required ["config"], .properties [("config", textRules)]]

/-- The rules for what a scheme builds. -/
def buildRules : List Rule :=
  [.kinds ["object"],
    .properties [
      ("targets", [
        .kinds ["object"],
        .otherProperties [] [.anyOf [textRules, [.reference "#/definitions/stringList"]]]])]]

/-- The rules for a scheme. -/
def schemeRules : List Rule :=
  [.kinds ["object"],
    .properties [
      ("build", buildRules),
      ("run", [.reference "#/definitions/buildAction"]),
      ("test", [.reference "#/definitions/buildAction"]),
      ("profile", [.reference "#/definitions/buildAction"]),
      ("analyze", [.reference "#/definitions/buildAction"]),
      ("archive", [.reference "#/definitions/buildAction"])]]

/-- The rules for groups of settings. -/
def settingGroupsRules : List Rule :=
  [.kinds ["object"], .otherProperties [] [.reference "#/definitions/settings"]]

/-- The rules for a spec. -/
def specRules : List Rule :=
  [.kinds ["object"],
    .properties [
      ("name", textRules),
      ("options", [.kinds ["object"], .properties [("minimumVersion", textRules)]]),
      ("configs", [
        .kinds ["object"], .otherProperties [] [.oneOf [.text "debug", .text "release"]]]),
      ("settings", [.reference "#/definitions/settings"]),
      ("settingGroups", settingGroupsRules),
      ("settingPresets", settingGroupsRules),
      ("fileGroups", [.reference "#/definitions/stringList"]),
      ("configFiles", [.reference "#/definitions/configFiles"]),
      ("targets", [.kinds ["object"], .otherProperties [] [.reference "#/definitions/target"]]),
      ("schemes", [.kinds ["object"], .otherProperties [] [.reference "#/definitions/scheme"]])]]

/-- What the references in the schema lead to, in the order in which they stand there. -/
def specTargets : List (String × List Rule) := [
  ("#/definitions/stringList", stringListRules),
  ("#/definitions/settings", settingsRules),
  ("#/definitions/buildScript", buildScriptRules),
  ("#/definitions/sources", sourcesRules),
  ("#/definitions/dependency", dependencyRules),
  ("#/definitions/configFiles", configFilesRules),
  ("#/definitions/stringList", stringListRules),
  ("#/definitions/stringList", stringListRules),
  ("#/definitions/buildScripts", buildScriptsRules),
  ("#/definitions/buildScripts", buildScriptsRules),
  ("#/definitions/settings", settingsRules),
  ("#/definitions/stringList", stringListRules),
  ("#/definitions/buildAction", buildActionRules),
  ("#/definitions/buildAction", buildActionRules),
  ("#/definitions/buildAction", buildActionRules),
  ("#/definitions/buildAction", buildActionRules),
  ("#/definitions/buildAction", buildActionRules),
  ("#/definitions/settings", settingsRules),
  ("#/definitions/settings", settingsRules),
  ("#/definitions/settings", settingsRules),
  ("#/definitions/stringList", stringListRules),
  ("#/definitions/configFiles", configFilesRules),
  ("#/definitions/target", targetRules),
  ("#/definitions/scheme", schemeRules)]

/-- The schema of project specs, read from its document. -/
theorem projectSpec_eq : projectSpec = ⟨⟨true, true, true⟩, specRules, specTargets⟩ := by rfl

/-! ## Reading the rules -/

open Document

variable {hops : Nat} {v : Value}

theorem isKind_string_iff {edition : Edition} :
    isKind edition "string" v = true ↔ Shape.Text v := by
  cases v <;> simp [isKind, Kind.ofWord?, Kind.holds, Shape.Text]

theorem isKind_object_iff {edition : Edition} :
    isKind edition "object" v = true ↔ ∃ entries, v = .map entries := by
  cases v <;> simp [isKind, Kind.ofWord?, Kind.holds]

theorem isKind_array_iff {edition : Edition} :
    isKind edition "array" v = true ↔ ∃ items, v = .list items := by
  cases v <;> simp [isKind, Kind.ofWord?, Kind.holds]

theorem isKind_null_iff {edition : Edition} : isKind edition "null" v = true ↔ v = .null := by
  cases v <;> simp [isKind, Kind.ofWord?, Kind.holds]

theorem mapping_of_accepts {rest : List Rule}
    (h : projectSpec.Accepts hops (.kinds ["object"] :: rest) v) :
    ∃ entries, v = .map entries ∧ projectSpec.Accepts hops rest (.map entries) := by
  obtain ⟨hkind, hrest⟩ := accepts_cons h
  obtain ⟨entries, rfl⟩ := isKind_object_iff.mp (by simpa using accepts_kinds hkind)
  exact ⟨entries, rfl, hrest⟩

theorem list_of_accepts {rest : List Rule}
    (h : projectSpec.Accepts hops (.kinds ["array"] :: rest) v) :
    ∃ items, v = .list items ∧ projectSpec.Accepts hops rest (.list items) := by
  obtain ⟨hkind, hrest⟩ := accepts_cons h
  obtain ⟨items, rfl⟩ := isKind_array_iff.mp (by simpa using accepts_kinds hkind)
  exact ⟨items, rfl, hrest⟩

/-- At each level of a value, as many references may be followed as the schema has. -/
theorem targets_length : projectSpec.targets.length = 24 := by
  rw [projectSpec_eq]
  rfl

/-- A reference leads to a definition of the schema. -/
theorem accepts_definition {target : String} {rules : List Rule}
    (htarget : specTargets.lookup target = some rules)
    (h : projectSpec.Accepts 24 [.reference target] v) : projectSpec.Accepts 23 rules v :=
  accepts_reference (by rw [projectSpec_eq]; exact htarget) h

theorem fields_of_accepts {fields : List (String × List Rule)} {entries : Entries}
    (h : projectSpec.Accepts hops [.properties fields] (.map entries)) :
    ∀ f ∈ fields, Shape.Field entries f.1 (projectSpec.Accepts 24 f.2) := by
  intro f hf part hpart
  rw [← targets_length]
  exact accepts_properties h f hf part hpart

theorem values_of_accepts {rules : List Rule} {p : Value → Prop}
    (hp : ∀ v, projectSpec.Accepts 24 rules v → p v)
    (h : projectSpec.Accepts hops [.kinds ["object"], .otherProperties [] rules] v) :
    Shape.Values p v := by
  obtain ⟨entries, rfl, hrest⟩ := mapping_of_accepts h
  refine ⟨entries, rfl, fun e he => hp e.2 ?_⟩
  rw [← targets_length]
  exact accepts_otherProperties hrest e he

theorem items_of_accepts {rules : List Rule} {p : Value → Prop}
    (hp : ∀ v, projectSpec.Accepts 24 rules v → p v)
    (h : projectSpec.Accepts hops [.kinds ["array"], .items rules] v) : Shape.Items p v := by
  obtain ⟨items, rfl, hrest⟩ := list_of_accepts h
  refine ⟨items, rfl, fun item hitem => hp item ?_⟩
  rw [← targets_length]
  exact accepts_items hrest item hitem

theorem required_of_accepts {name : String} {entries : Entries}
    (h : projectSpec.Accepts hops [.required [name]] (.map entries)) :
    Value.hasField entries name = true :=
  accepts_required h name (List.mem_singleton_self name)

/-- A key that is required and whose value has a shape. -/
theorem exists_field {entries : Entries} {key : String} {p : Value → Prop}
    (hkey : Value.hasField entries key = true) (hfield : Shape.Field entries key p) :
    ∃ v, Value.field? entries key = some v ∧ p v := by
  obtain ⟨v, hv⟩ := Option.isSome_iff_exists.mp hkey
  exact ⟨v, hv, hfield v hv⟩

/-! ## The shape of accepted data -/

theorem text_of_accepts (h : projectSpec.Accepts hops textRules v) : Shape.Text v :=
  isKind_string_iff.mp (by simpa using accepts_kinds h)

theorem texts_of_accepts (h : projectSpec.Accepts hops stringListRules v) :
    Shape.Items Shape.Text v :=
  items_of_accepts (fun _ => text_of_accepts) h

theorem texts_of_reference
    (h : projectSpec.Accepts 24 [.reference "#/definitions/stringList"] v) :
    Shape.Items Shape.Text v :=
  texts_of_accepts (accepts_definition rfl h)

theorem configFiles_of_reference
    (h : projectSpec.Accepts 24 [.reference "#/definitions/configFiles"] v) :
    Shape.Values Shape.Text v :=
  values_of_accepts (fun _ => text_of_accepts) (accepts_definition rfl h)

/-- Settings are described by settings inside them, so the induction is on how deep they are. -/
theorem settings_of_accepts {n : Nat} (hdepth : depth v ≤ n)
    (h : projectSpec.Accepts hops settingsRules v) : Shape.Settings v := by
  induction n generalizing v hops with
  | zero => have := depth_pos v; omega
  | succ n ih =>
      obtain ⟨entries, rfl, hrest⟩ := mapping_of_accepts h
      have hfields := fields_of_accepts hrest
      simp only [List.forall_mem_cons] at hfields
      obtain ⟨hbase, hgroups, hconfigs, -⟩ := hfields
      refine Shape.Settings.intro ?_ ?_ ?_ ?_
      · intro base hfound
        obtain ⟨inside, rfl, -⟩ := mapping_of_accepts (hbase base hfound)
        exact ⟨inside, rfl, trivial⟩
      · exact fun groups hfound => texts_of_reference (hgroups groups hfound)
      · intro configs hfound
        obtain ⟨inside, rfl, -⟩ := mapping_of_accepts (hconfigs configs hfound)
        exact ⟨inside, rfl, trivial⟩
      · intro inside hfound e he hnull
        have hvalues : Shape.Values
            (projectSpec.Accepts 24 [.anyOf [[.reference "#/definitions/settings"],
              [.kinds ["null"]]]]) (.map inside) :=
          values_of_accepts (fun _ hv => hv) (hconfigs _ hfound)
        obtain ⟨entriesInside, hsame, hvalues⟩ := hvalues
        cases hsame
        obtain ⟨key, hmem⟩ := Value.exists_mem_of_field? hfound
        have hinside : depth (.map inside) < depth (.map entries) := depth_lt_of_mem_entries hmem
        have hvalue := depth_lt_of_mem_entries he
        rcases accepts_anyOf_pair (hvalues e he) with haccepts | haccepts
        · exact ih (by omega) (accepts_definition rfl haccepts)
        · exact absurd (isKind_null_iff.mp (by simpa using accepts_kinds haccepts)) hnull

theorem settings_of_reference
    (h : projectSpec.Accepts 24 [.reference "#/definitions/settings"] v) : Shape.Settings v :=
  settings_of_accepts (Nat.le_refl _) (accepts_definition rfl h)

theorem script_of_reference
    (h : projectSpec.Accepts 24 [.reference "#/definitions/buildScript"] v) :
    Shape.Mapping Shape.Script v := by
  obtain ⟨entries, rfl, hrest⟩ := mapping_of_accepts (accepts_definition rfl h)
  obtain ⟨hproperties, hsource⟩ := accepts_cons hrest
  have hfields := fields_of_accepts hproperties
  simp only [List.forall_mem_cons] at hfields
  obtain ⟨hname, hpath, hscript, -⟩ := hfields
  refine ⟨entries, rfl, ?_⟩
  constructor
  · exact fun name hfound => text_of_accepts (hname name hfound)
  · exact fun path hfound => text_of_accepts (hpath path hfound)
  · exact fun script hfound => text_of_accepts (hscript script hfound)
  · rcases accepts_anyOf_pair hsource with haccepts | haccepts
    · exact Or.inl (required_of_accepts haccepts)
    · exact Or.inr (required_of_accepts haccepts)

theorem scripts_of_reference
    (h : projectSpec.Accepts 24 [.reference "#/definitions/buildScripts"] v) :
    Shape.Items (Shape.Mapping Shape.Script) v :=
  items_of_accepts (fun _ => script_of_reference) (accepts_definition rfl h)

theorem dependency_of_reference
    (h : projectSpec.Accepts 24 [.reference "#/definitions/dependency"] v) :
    Shape.Mapping Shape.Dependency v := by
  obtain ⟨entries, rfl, hrest⟩ := mapping_of_accepts (accepts_definition rfl h)
  obtain ⟨rules, hrules, haccepts⟩ := accepts_anyOf hrest
  simp only [List.mem_cons, List.not_mem_nil, or_false] at hrules
  refine ⟨entries, rfl, ?_⟩
  rcases hrules with rfl | rfl | rfl | rfl | rfl
  · exact ⟨.target, required_of_accepts haccepts⟩
  · exact ⟨.framework, required_of_accepts haccepts⟩
  · exact ⟨.carthage, required_of_accepts haccepts⟩
  · exact ⟨.sdk, required_of_accepts haccepts⟩
  · exact ⟨.package, required_of_accepts haccepts⟩

theorem source_of_accepts
    (h : projectSpec.Accepts hops [.anyOf [textRules, sourceMappingRules]] v) :
    Shape.Source v := by
  rcases accepts_anyOf_pair h with haccepts | haccepts
  · exact Or.inl (text_of_accepts haccepts)
  · obtain ⟨entries, rfl, hrest⟩ := mapping_of_accepts haccepts
    obtain ⟨hrequired, hproperties⟩ := accepts_cons hrest
    have hpath := fields_of_accepts hproperties ("path", textRules) (List.mem_singleton_self _)
    obtain ⟨path, hfound, hpath⟩ := exists_field (required_of_accepts hrequired) hpath
    exact Or.inr ⟨entries, rfl, path, hfound, text_of_accepts hpath⟩

theorem sources_of_reference
    (h : projectSpec.Accepts 24 [.reference "#/definitions/sources"] v) :
    Shape.Text v ∨ Shape.Items Shape.Source v := by
  rcases accepts_anyOf_pair (accepts_definition rfl h) with haccepts | haccepts
  · exact Or.inl (text_of_accepts haccepts)
  · exact Or.inr (items_of_accepts (fun _ => source_of_accepts) haccepts)

theorem targetScheme_of_accepts (h : projectSpec.Accepts hops targetSchemeRules v) :
    Shape.Mapping Shape.TargetScheme v := by
  obtain ⟨entries, rfl, hrest⟩ := mapping_of_accepts h
  have hfields := fields_of_accepts hrest
  simp only [List.forall_mem_cons] at hfields
  obtain ⟨hvariants, htests, -⟩ := hfields
  refine ⟨entries, rfl, ?_⟩
  constructor
  · exact fun variants hfound => texts_of_reference (hvariants variants hfound)
  · exact fun tests hfound => texts_of_reference (htests tests hfound)

theorem target_of_reference
    (h : projectSpec.Accepts 24 [.reference "#/definitions/target"] v) :
    Shape.Mapping Shape.Target v := by
  obtain ⟨entries, rfl, hrest⟩ := mapping_of_accepts (accepts_definition rfl h)
  have hfields := fields_of_accepts hrest
  simp only [List.forall_mem_cons] at hfields
  obtain ⟨htype, hplatform, hsources, hdependencies, hconfigFiles, hscheme, hprebuild,
    hpostbuild, hsettings, -⟩ := hfields
  refine ⟨entries, rfl, ?_⟩
  constructor
  · exact fun type hfound => text_of_accepts (htype type hfound)
  · exact fun platform hfound => text_of_accepts (hplatform platform hfound)
  · exact fun sources hfound => sources_of_reference (hsources sources hfound)
  · exact fun dependencies hfound =>
      items_of_accepts (fun _ => dependency_of_reference) (hdependencies dependencies hfound)
  · exact fun files hfound => configFiles_of_reference (hconfigFiles files hfound)
  · exact fun scheme hfound => targetScheme_of_accepts (hscheme scheme hfound)
  · exact fun scripts hfound => scripts_of_reference (hprebuild scripts hfound)
  · exact fun scripts hfound => scripts_of_reference (hpostbuild scripts hfound)
  · exact fun settings hfound => settings_of_reference (hsettings settings hfound)

theorem action_of_reference
    (h : projectSpec.Accepts 24 [.reference "#/definitions/buildAction"] v) :
    Shape.Mapping Shape.Action v := by
  obtain ⟨entries, rfl, hrest⟩ := mapping_of_accepts (accepts_definition rfl h)
  obtain ⟨hrequired, hproperties⟩ := accepts_cons hrest
  have hconfig := fields_of_accepts hproperties ("config", textRules) (List.mem_singleton_self _)
  obtain ⟨config, hfound, hconfig⟩ := exists_field (required_of_accepts hrequired) hconfig
  exact ⟨entries, rfl, config, hfound, text_of_accepts hconfig⟩

theorem build_of_accepts (h : projectSpec.Accepts hops buildRules v) :
    Shape.Mapping Shape.Build v := by
  obtain ⟨entries, rfl, hrest⟩ := mapping_of_accepts h
  have htargets := fields_of_accepts hrest _ (List.mem_singleton_self _)
  refine ⟨entries, rfl, fun targets hfound => values_of_accepts ?_ (htargets targets hfound)⟩
  intro types htypes
  rcases accepts_anyOf_pair htypes with haccepts | haccepts
  · exact Or.inl (text_of_accepts haccepts)
  · exact Or.inr (texts_of_reference haccepts)

theorem scheme_of_reference
    (h : projectSpec.Accepts 24 [.reference "#/definitions/scheme"] v) :
    Shape.Mapping Shape.Scheme v := by
  obtain ⟨entries, rfl, hrest⟩ := mapping_of_accepts (accepts_definition rfl h)
  have hfields := fields_of_accepts hrest
  simp only [List.forall_mem_cons] at hfields
  obtain ⟨hbuild, hrun, htest, hprofile, hanalyze, harchive, -⟩ := hfields
  refine ⟨entries, rfl, ?_⟩
  constructor
  · exact fun build hfound => build_of_accepts (hbuild build hfound)
  · intro a action hfound
    cases a with
    | run => exact action_of_reference (hrun action hfound)
    | test => exact action_of_reference (htest action hfound)
    | profile => exact action_of_reference (hprofile action hfound)
    | analyze => exact action_of_reference (hanalyze action hfound)
    | archive => exact action_of_reference (harchive action hfound)

/-- Nothing is equal to a text but the text itself. -/
theorem eq_text_of_equalData {s : String} (h : Value.equalData (.text s) v = true) :
    v = .text s := by
  cases v with
  | text t =>
      have hsame : s = t := by simpa [Value.equalData, Value.sameScalar] using h
      rw [hsame]
  | _ => simp [Value.equalData, Value.sameScalar, Value.asNumber?] at h

theorem configWord_of_accepts
    (h : projectSpec.Accepts hops [.oneOf [.text "debug", .text "release"]] v) :
    Shape.ConfigWord v := by
  have hany := accepts_oneOf h
  simp only [List.any_cons, List.any_nil, Bool.or_false, Bool.or_eq_true] at hany
  rcases hany with hdebug | hrelease
  · exact ⟨.debug, eq_text_of_equalData hdebug⟩
  · exact ⟨.release, eq_text_of_equalData hrelease⟩

theorem settingGroups_of_accepts (h : projectSpec.Accepts hops settingGroupsRules v) :
    Shape.Values Shape.Settings v :=
  values_of_accepts (fun _ => settings_of_reference) h

theorem spec_of_accepts {entries : Entries}
    (h : projectSpec.Accepts hops specRules (.map entries)) : Shape.Spec entries := by
  have hfields := fields_of_accepts (accepts_cons h).2
  simp only [List.forall_mem_cons] at hfields
  obtain ⟨hname, hoptions, hconfigs, hsettings, hgroups, hpresets, hfileGroups, hconfigFiles,
    htargets, hschemes, -⟩ := hfields
  constructor
  · exact fun name hfound => text_of_accepts (hname name hfound)
  · intro options hfound
    obtain ⟨inside, rfl, hrest⟩ := mapping_of_accepts (hoptions options hfound)
    have hversion := fields_of_accepts hrest _ (List.mem_singleton_self _)
    exact ⟨inside, rfl, fun version hfound => text_of_accepts (hversion version hfound)⟩
  · exact fun configs hfound =>
      values_of_accepts (fun _ => configWord_of_accepts) (hconfigs configs hfound)
  · exact fun settings hfound => settings_of_reference (hsettings settings hfound)
  · exact fun groups hfound => settingGroups_of_accepts (hgroups groups hfound)
  · exact fun groups hfound => settingGroups_of_accepts (hpresets groups hfound)
  · exact fun groups hfound => texts_of_reference (hfileGroups groups hfound)
  · exact fun files hfound => configFiles_of_reference (hconfigFiles files hfound)
  · exact fun targets hfound =>
      values_of_accepts (fun _ => target_of_reference) (htargets targets hfound)
  · exact fun schemes hfound =>
      values_of_accepts (fun _ => scheme_of_reference) (hschemes schemes hfound)

end Schema

/-- **Data without issues has the shape of a spec.** -/
theorem Shape.Spec.of_issues_eq_nil {entries : Entries}
    (h : Schema.projectSpec.issues (.map entries) = .ok []) : Shape.Spec entries := by
  have haccepts := Schema.Document.accepts_of_issues_eq_nil h
  rw [show Schema.projectSpec.rules = Schema.specRules by rw [Schema.projectSpec_eq]] at haccepts
  exact Schema.spec_of_accepts haccepts

end BuildSpec
