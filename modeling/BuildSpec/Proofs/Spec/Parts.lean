import BuildSpec.Proofs.Except
import BuildSpec.Proofs.Spec.Reading
import BuildSpec.Proofs.Value.Element

/-!
# The parts of a spec's data

The reader of specs goes from part to part: from a mapping to the values under some keys, from a
mapping of named parts or from a list to each of them.  This file says which parts these are, and
puts a value where a part stands while all around it stays:

* `Part` — the parts that are mappings or lists, or may take the form of one;
* `Slot` — the slots for a part in the data of a spec;
* `field?_put` — what is found in a mapping where one of its values is put;
* `SpecFields`, `TargetFields`, `SchemeFields`, `SettingsFields` — what a part that has been read was
  read from.
-/

namespace BuildSpec

open Value

namespace Value

variable {before after : Entries} {key : String} {v : Value}

theorem hasField_eq_false_iff {entries : Entries} :
    hasField entries key = false ↔ field? entries key = none := by
  rw [hasField, Option.isSome_eq_false_iff, Option.isNone_iff_eq_none]

theorem field?_append (before after : Entries) (key : String) :
    field? (before ++ after) key = (field? before key).or (field? after key) := by
  rw [field?, List.find?_append, Option.map_or]
  rfl

theorem field?_cons_text (name : String) (v : Value) (after : Entries) (key : String) :
    field? ((text name, v) :: after) key = if name = key then some v else field? after key := by
  by_cases hname : name = key <;> simp [field?, hname]

/-- The value that is put under a key that does not occur before is found there; under any other key
it is not in the way. -/
theorem field?_put (hnew : hasField before key = false) (v : Value) (other : String) :
    field? (before ++ (text key, v) :: after) other =
      if key = other then some v else field? (before ++ after) other := by
  have hnone : field? before key = none := hasField_eq_false_iff.mp hnew
  rw [field?_append, field?_cons_text, field?_append]
  split
  · next heq => rw [← heq, hnone, Option.none_or]
  · rfl

theorem field_put (hnew : hasField before key = false) (v : Value) (other : String) :
    field (before ++ (text key, v) :: after) other =
      if key = other then v else field (before ++ after) other := by
  rw [field, field?_put hnew]
  split <;> rfl

theorem field_put_self (hnew : hasField before key = false) :
    field (before ++ (text key, v) :: after) key = v := by
  rw [field_put hnew, if_pos rfl]

/-- A field is put somewhere among the entries of a mapping. -/
theorem exists_put_of_field? {entries : Entries} (h : field? entries key = some v) :
    ∃ before after, entries = before ++ (text key, v) :: after ∧ hasField before key = false := by
  induction entries with
  | nil => cases h
  | cons e rest ih =>
      by_cases hkey : e.1 = text key
      · obtain ⟨k, w⟩ := e
        obtain rfl : k = text key := hkey
        rw [field?_cons_text, if_pos rfl] at h
        cases h
        exact ⟨[], rest, rfl, rfl⟩
      · have hfirst : field? [e] key = none := by
          obtain ⟨k, w⟩ := e
          cases k <;> simp_all [field?]
        rw [← List.singleton_append, field?_append, hfirst, Option.none_or] at h
        obtain ⟨before, after, rfl, hnew⟩ := ih h
        refine ⟨e :: before, after, rfl, ?_⟩
        rw [hasField, ← List.singleton_append, field?_append, hfirst, Option.none_or]
        exact hnew

/-! ## Parts that may be absent -/

variable {entries : Entries} {items : List Value} {place : String}

theorem eq_map_of_expectMap (h : v.expectMap place = .ok entries) : v = .map entries := by
  cases v with
  | map inside => exact congrArg Value.map (Except.ok.inj h)
  | _ => cases h

theorem eq_list_of_expectList (h : v.expectList place = .ok items) : v = .list items := by
  cases v with
  | list inside => exact congrArg Value.list (Except.ok.inj h)
  | _ => cases h

theorem eq_of_mapOrAbsent (h : v.mapOrAbsent place = .ok entries) :
    (v.isBlank = true ∧ entries = []) ∨ v = .map entries := by
  unfold mapOrAbsent at h
  split at h
  · next hblank => exact .inl ⟨hblank, (Except.ok.inj h).symm⟩
  · exact .inr (eq_map_of_expectMap h)

theorem eq_of_listOrAbsent (h : v.listOrAbsent place = .ok items) :
    (v.isBlank = true ∧ items = []) ∨ v = .list items := by
  unfold listOrAbsent at h
  split at h
  · next hblank => exact .inl ⟨hblank, (Except.ok.inj h).symm⟩
  · exact .inr (eq_list_of_expectList h)

theorem eq_map_of_mem (h : v.mapOrAbsent place = .ok entries) {e : Value × Value}
    (he : e ∈ entries) : v = .map entries := by
  rcases eq_of_mapOrAbsent h with ⟨-, rfl⟩ | hmap
  · cases he
  · exact hmap

theorem eq_list_of_mem (h : v.listOrAbsent place = .ok items) {item : Value}
    (hitem : item ∈ items) : v = .list items := by
  rcases eq_of_listOrAbsent h with ⟨-, rfl⟩ | hlist
  · cases hitem
  · exact hlist

/-- A name is the text that is written for a key. -/
theorem eq_plain_of_asText {key : Value} {name : String} (h : key.asText = .ok name) :
    name = key.plain := by
  have hname := mapError_eq_ok_iff.mp h
  unfold writePlain at hname
  split at hname
  · exact (Except.ok.inj hname).symm
  · cases hname

end Value

/-- The parts of the data of a spec that are mappings or lists, or may take the form of one. -/
inductive Part where
  | spec
  | options
  | configurations
  /-- Settings of a spec or of a target. -/
  | settings
  /-- Settings under names: the groups of a spec, and the settings for configurations. -/
  | settingsTable
  /-- Settings under a name, which may be blank. -/
  | group
  /-- The build settings of structured settings. -/
  | base
  /-- A list of names or paths. -/
  | names
  | configFiles
  | targets
  | target
  | dependencies
  | dependency
  | scripts
  | script
  | targetScheme
  /-- The names in the scheme of a target, which the reader takes from a value of any kind. -/
  | schemeNames
  | schemes
  | scheme
  | build
  | buildTargets
  | action
  deriving DecidableEq, Repr

namespace Part

/-- A part may hold another one under a key. -/
inductive Field : Part → String → Part → Prop
  | options : Field .spec "options" .options
  | configs : Field .spec "configs" .configurations
  | settings : Field .spec "settings" .settings
  | settingGroups : Field .spec "settingGroups" .settingsTable
  | targets : Field .spec "targets" .targets
  | schemes : Field .spec "schemes" .schemes
  | fileGroups : Field .spec "fileGroups" .names
  | configFiles : Field .spec "configFiles" .configFiles
  | targetDependencies : Field .target "dependencies" .dependencies
  | targetConfigFiles : Field .target "configFiles" .configFiles
  | targetScheme : Field .target "scheme" .targetScheme
  | prebuildScripts : Field .target "prebuildScripts" .scripts
  | postbuildScripts : Field .target "postbuildScripts" .scripts
  | targetSettings : Field .target "settings" .settings
  | configVariants : Field .targetScheme "configVariants" .schemeNames
  | testTargets : Field .targetScheme "testTargets" .schemeNames
  | base {p : Part} (hp : p = .settings ∨ p = .group) : Field p "base" .base
  | groups {p : Part} (hp : p = .settings ∨ p = .group) : Field p "groups" .names
  | settingsConfigs {p : Part} (hp : p = .settings ∨ p = .group) : Field p "configs" .settingsTable
  | build : Field .scheme "build" .build
  | action (a : SchemeAction) : Field .scheme a.text .action
  | buildTargets : Field .build "targets" .buildTargets

/-- The values of a part that is a mapping from names may be parts. -/
inductive Entry : Part → Part → Prop
  | group : Entry .settingsTable .group
  | target : Entry .targets .target
  | scheme : Entry .schemes .scheme

/-- The items of a part that is a list may be parts. -/
inductive Item : Part → Part → Prop
  | dependency : Item .dependencies .dependency
  | script : Item .scripts .script

end Part

/-- The slots for a part: each of them puts a value where the reader expects the part, in data that
is given but for this value.  The older name of the setting groups counts where the newer one has
nothing. -/
inductive Slot : Part → (Value → Value) → Prop
  | spec : Slot .spec fun v => v
  | presets {before after : Entries} (hnew : hasField before "settingPresets" = false)
      (hnone : Value.field (before ++ after) "settingGroups" = .null) :
      Slot .settingsTable fun v => .map (before ++ (text "settingPresets", v) :: after)
  | field {p q : Part} {put : Value → Value} {key : String} {before after : Entries}
      (hp : Slot p put) (hfield : p.Field key q) (hnew : hasField before key = false) :
      Slot q fun v => put (.map (before ++ (text key, v) :: after))
  | entry {p q : Part} {put : Value → Value} {key : Value} {before after : Entries}
      (hp : Slot p put) (hentry : p.Entry q) :
      Slot q fun v => put (.map (before ++ (key, v) :: after))
  | item {p q : Part} {put : Value → Value} {before after : List Value}
      (hp : Slot p put) (hitem : p.Item q) :
      Slot q fun v => put (.list (before ++ v :: after))

namespace Value

/-- Data holds a value as a part. -/
def Holds (data : Value) (p : Part) (v : Value) : Prop := ∃ put, Slot p put ∧ data = put v

variable {data : Value} {p q : Part}

theorem Holds.root (data : Value) : data.Holds .spec data := ⟨_, .spec, rfl⟩

theorem Holds.field {entries : Entries} {key : String} {v : Value}
    (h : data.Holds p (.map entries)) (hfield : p.Field key q) (hv : field? entries key = some v) :
    data.Holds q v := by
  obtain ⟨put, hput, rfl⟩ := h
  obtain ⟨before, after, rfl, hnew⟩ := exists_put_of_field? hv
  exact ⟨_, .field hput hfield hnew, rfl⟩

theorem Holds.entry {entries : Entries} {key v : Value} (h : data.Holds p (.map entries))
    (hentry : p.Entry q) (hmem : (key, v) ∈ entries) : data.Holds q v := by
  obtain ⟨put, hput, rfl⟩ := h
  obtain ⟨before, after, rfl⟩ := List.append_of_mem hmem
  exact ⟨_, .entry hput hentry, rfl⟩

theorem Holds.item {items : List Value} {v : Value} (h : data.Holds p (.list items))
    (hitem : p.Item q) (hmem : v ∈ items) : data.Holds q v := by
  obtain ⟨put, hput, rfl⟩ := h
  obtain ⟨before, after, rfl⟩ := List.append_of_mem hmem
  exact ⟨_, .item hput hitem, rfl⟩

/-- Data holds a value as a part, or has nothing in place of the part. -/
def Offers (data : Value) (p : Part) (v : Value) : Prop := v = .null ∨ data.Holds p v

theorem Offers.field {v : Value} {entries : Entries} {key place : String} (h : data.Offers p v)
    (hentries : v.mapOrAbsent place = .ok entries) (hfield : p.Field key q) :
    data.Offers q (Value.field entries key) := by
  rcases field_eq_null_or entries key with hnull | hsome
  · exact .inl hnull
  · rcases eq_of_mapOrAbsent hentries with ⟨-, rfl⟩ | rfl
    · cases hsome
    · rcases h with hnull | hv
      · cases hnull
      · exact .inr (hv.field hfield hsome)

theorem Offers.entry {v : Value} {entries : Entries} {place : String} {e : Value × Value}
    (h : data.Offers p v) (hentries : v.mapOrAbsent place = .ok entries) (hentry : p.Entry q)
    (he : e ∈ entries) : data.Holds q e.2 := by
  obtain rfl := eq_map_of_mem hentries he
  rcases h with hnull | hv
  · cases hnull
  · exact hv.entry hentry he

theorem Offers.item {v item : Value} {items : List Value} {place : String} (h : data.Offers p v)
    (hitems : v.listOrAbsent place = .ok items) (hitem : p.Item q) (hmem : item ∈ items) :
    data.Holds q item := by
  obtain rfl := eq_list_of_mem hitems hmem
  rcases h with hnull | hv
  · cases hnull
  · exact hv.item hitem hmem

end Value

/-! ## Settings under names -/

namespace ProjectSpec

/-- Reads settings that may be blank. -/
def readGroup (place : String) (v : Value) : Except ShapeFault Settings :=
  if v.isBlank then pure .none else readSettings place v

/-- Reads settings that stand under a name. -/
def readNamedGroup (place : String) (e : Value × Value) : Except ShapeFault (String × Settings) := do
  let name ← e.1.asText
  let settings ← readGroup (place ++ "." ++ name) e.2
  return (name, settings)

/-- The value that the setting groups are read from, under the newer name or the older one. -/
def settingGroupsField (data : Entries) : Value :=
  match Value.field data "settingGroups" with
  | .null => Value.field data "settingPresets"
  | v => v

theorem readConfigEntries_eq (place : String) (entries : Entries) :
    readConfigEntries place entries = entries.mapM (readNamedGroup place) := by
  induction entries with
  | nil => rfl
  | cons e rest ih =>
      rw [List.mapM_cons, readConfigEntries, ih, readNamedGroup]
      by_cases hblank : e.2.isBlank = true <;> simp [readGroup, hblank]

theorem readConfigs_eq (place : String) (v : Value) :
    readConfigs place v = v.mapOrAbsent place >>= List.mapM (readNamedGroup place) := by
  cases v with
  | map entries =>
      rw [readConfigs, readConfigEntries_eq]
      cases entries <;> rfl
  | _ =>
      simp only [readConfigs, mapOrAbsent]
      split <;> rfl

/-- The setting groups of a spec are looked for under either name. -/
theorem offers_settingGroupsField (entries : Entries) :
    (Value.map entries).Offers .settingsTable (settingGroupsField entries) := by
  rw [settingGroupsField]
  split
  · next hnone =>
      rcases field_eq_null_or entries "settingPresets" with hnull | hsome
      · exact .inl hnull
      · obtain ⟨before, after, hentries, hnew⟩ := exists_put_of_field? hsome
        rw [hentries, field_put hnew] at hnone
        refine .inr ⟨_, .presets hnew (by simpa using hnone), congrArg Value.map hentries⟩
  · exact Offers.field (.inr (.root _)) (mapOrAbsent_map "spec" entries) .settingGroups

/-- The setting groups are a table like the settings for configurations. -/
theorem readSettingGroups_eq (data : Entries) :
    readSettingGroups data = tableOf <$> readConfigs "settingGroups" (settingGroupsField data) := by
  have hnamed : (fun e : Value × Value => do
      let group ← e.1.asText
      let settings ←
        if e.2.isBlank then pure .none else readSettings ("settingGroups." ++ group) e.2
      return (group, settings)) = readNamedGroup "settingGroups" := by
    funext e
    by_cases hblank : e.2.isBlank = true <;> simp [readNamedGroup, readGroup, hblank]
  rw [readConfigs_eq, map_eq_pure_bind, bind_assoc, ← hnamed]
  rfl

/-- What holds of settings if it holds of the settings for configurations in them holds of all
settings. -/
theorem induct_settings {P : Value → Prop}
    (h : ∀ v, (∀ entries inside e, v = .map entries →
      Value.field entries "configs" = .map inside → e ∈ inside → P e.2) → P v) (v : Value) : P v := by
  refine h v fun entries inside e hv hfield he => ?_
  have hsome : field? entries "configs" = some (.map inside) := by
    rcases field_eq_null_or entries "configs" with hnull | hsome
    · rw [hfield] at hnull
      cases hnull
    · rwa [hfield] at hsome
  have houter := List.sizeOf_lt_of_mem (mem_of_field? hsome)
  have hinner := List.sizeOf_lt_of_mem he
  have hsmaller : sizeOf e.2 < sizeOf v := by
    obtain ⟨key, value⟩ := e
    simp only [hv, Prod.mk.sizeOf_spec, Value.map.sizeOf_spec] at houter hinner ⊢
    omega
  exact induct_settings h e.2
termination_by sizeOf v

/-! ## What has been read -/

variable {place name : String} {entries : Entries}

theorem readConfigsIn_eq_field (place : String) (entries : Entries) :
    readConfigsIn place entries = readConfigs place (Value.field entries "configs") := by
  rw [readConfigsIn_eq, Value.field]
  cases field? entries "configs" <;> rfl

/-- A stage that has two forms comes to something in either. -/
theorem exists_of_ite_bind {ε α β : Type} {c : Prop} [Decidable c] {x y : Except ε α}
    {f : α → Except ε β} {b : β} (h : (if c then x >>= f else y >>= f) = .ok b) :
    ∃ a, f a = .ok b := by
  split at h <;> obtain ⟨a, -, ha⟩ := bind_eq_ok_iff.mp h <;> exact ⟨a, ha⟩

/-- What the parts of structured settings were read from. -/
structure SettingsFields (place : String) (entries : Entries) (s : Settings) : Prop where
  groups : ∃ items, (Value.field entries "groups").listOrAbsent (place ++ ".groups") = .ok items
  configSettings :
    tableOf <$> readConfigs (place ++ ".configs") (Value.field entries "configs") =
      .ok s.configSettings
  base : (Value.field entries "base").mapOrAbsent (place ++ ".base") = .ok s.buildSettings

/-- A mapping of settings is read as build settings, or field by field. -/
theorem fields_of_readSettings {s : Settings} (h : readSettings place (.map entries) = .ok s) :
    (settingsKeys.any (hasField entries) = false ∧ s = ⟨entries, [], []⟩) ∨
      SettingsFields place entries s := by
  rw [readSettings] at h
  split at h
  · next hplain =>
      cases h
      exact .inl ⟨by simpa using hplain, rfl⟩
  · obtain ⟨items, hitems, h⟩ := bind_eq_ok_iff.mp h
    obtain ⟨configs, hconfigs, h⟩ := bind_eq_ok_iff.mp h
    obtain ⟨base, hbase, h⟩ := bind_eq_ok_iff.mp h
    obtain ⟨groups, hgroups, h⟩ := bind_eq_ok_iff.mp h
    cases h
    rw [readConfigsIn_eq_field] at hconfigs
    exact .inr ⟨⟨items, hitems⟩, map_eq_ok_iff.mpr ⟨configs, hconfigs, rfl⟩, hbase⟩

/-- What the parts of a target were read from. -/
structure TargetFields (name : String) (entries : Entries) (t : Target) : Prop where
  name_eq : t.name = name
  scheme : readTargetScheme ("targets." ++ name ++ "." ++ "scheme") (Value.field entries "scheme") =
    .ok t.scheme
  sources : readSources ("targets." ++ name ++ "." ++ "sources") (Value.field entries "sources") =
    .ok t.sources
  dependencies : (Value.field entries "dependencies").listOrAbsent
      ("targets." ++ name ++ "." ++ "dependencies") >>=
        List.mapM (readDependency ("targets." ++ name ++ "." ++ "dependencies")) =
    .ok t.dependencies
  configFiles : readConfigFiles ("targets." ++ name ++ "." ++ "configFiles")
    (Value.field entries "configFiles") = .ok t.configFiles
  prebuildScripts : readScripts ("targets." ++ name ++ "." ++ "prebuildScripts")
    (Value.field entries "prebuildScripts") = .ok t.prebuildScripts
  postbuildScripts : readScripts ("targets." ++ name ++ "." ++ "postbuildScripts")
    (Value.field entries "postbuildScripts") = .ok t.postbuildScripts
  settings : readSettings ("targets." ++ name ++ "." ++ "settings") (Value.field entries "settings") =
    .ok t.settings

theorem fields_of_readTarget {v : Value} {t : Target} (h : readTarget name v = .ok t) :
    ∃ entries, v.mapOrAbsent ("targets." ++ name) = .ok entries ∧ TargetFields name entries t := by
  unfold readTarget at h
  dsimp only at h
  obtain ⟨entries, hentries, h⟩ := bind_eq_ok_iff.mp h
  obtain ⟨scheme, hscheme, h⟩ := bind_eq_ok_iff.mp h
  obtain ⟨type, -, h⟩ := bind_eq_ok_iff.mp h
  obtain ⟨platform, -, h⟩ := bind_eq_ok_iff.mp h
  obtain ⟨sources, hsources, h⟩ := bind_eq_ok_iff.mp h
  obtain ⟨items, hitems, h⟩ := bind_eq_ok_iff.mp h
  obtain ⟨dependencies, hdependencies, h⟩ := bind_eq_ok_iff.mp h
  obtain ⟨configFiles, hconfigFiles, h⟩ := bind_eq_ok_iff.mp h
  obtain ⟨prebuild, hprebuild, h⟩ := bind_eq_ok_iff.mp h
  obtain ⟨postbuild, hpostbuild, h⟩ := bind_eq_ok_iff.mp h
  obtain ⟨settings, hsettings, h⟩ := bind_eq_ok_iff.mp h
  cases h
  exact ⟨entries, hentries, rfl, hscheme, hsources,
    bind_eq_ok_iff.mpr ⟨items, hitems, hdependencies⟩, hconfigFiles, hprebuild, hpostbuild,
    hsettings⟩

theorem name_of_readTarget {v : Value} {t : Target} (h : readTarget name v = .ok t) :
    t.name = name := by
  obtain ⟨entries, -, hfields⟩ := fields_of_readTarget h
  exact hfields.name_eq

/-- What the parts of a scheme were read from. -/
structure SchemeFields (name : String) (entries : Entries) (s : Scheme) : Prop where
  name_eq : s.name = name
  action : ∀ a : SchemeAction, ∃ config,
    readAction ("schemes." ++ name ++ "." ++ a.text) (Value.field entries a.text) = .ok config
  build : ∃ build targets,
    (Value.field entries "build").mapOrAbsent ("schemes." ++ name ++ ".build") = .ok build ∧
      (Value.field build "targets").mapOrAbsent ("schemes." ++ name ++ ".build.targets") =
        .ok targets ∧
      targets.mapM (fun (key, value) => do
        readBuildTarget ("schemes." ++ name ++ ".build.targets") (← key.asText) value) = .ok s.build

theorem fields_of_readScheme {v : Value} {s : Scheme} (h : readScheme name v = .ok s) :
    ∃ entries, v.mapOrAbsent ("schemes." ++ name) = .ok entries ∧ SchemeFields name entries s := by
  unfold readScheme at h
  dsimp only at h
  obtain ⟨entries, hentries, h⟩ := bind_eq_ok_iff.mp h
  obtain ⟨build, hbuild, h⟩ := bind_eq_ok_iff.mp h
  obtain ⟨run, hrun, h⟩ := bind_eq_ok_iff.mp h
  obtain ⟨test, htest, h⟩ := bind_eq_ok_iff.mp h
  obtain ⟨profile, hprofile, h⟩ := bind_eq_ok_iff.mp h
  obtain ⟨analyze, hanalyze, h⟩ := bind_eq_ok_iff.mp h
  obtain ⟨archive, harchive, h⟩ := bind_eq_ok_iff.mp h
  obtain ⟨inside, hinside, h⟩ := bind_eq_ok_iff.mp h
  obtain ⟨targets, htargets, h⟩ := bind_eq_ok_iff.mp h
  cases h
  refine ⟨entries, hentries, rfl, fun a => ?_, build, inside, hbuild, hinside, htargets⟩
  cases a with
  | run => exact ⟨run, hrun⟩
  | test => exact ⟨test, htest⟩
  | profile => exact ⟨profile, hprofile⟩
  | analyze => exact ⟨analyze, hanalyze⟩
  | archive => exact ⟨archive, harchive⟩

theorem name_of_readScheme {v : Value} {s : Scheme} (h : readScheme name v = .ok s) :
    s.name = name := by
  obtain ⟨entries, -, hfields⟩ := fields_of_readScheme h
  exact hfields.name_eq

/-- What the parts of a spec were read from. -/
structure SpecFields (data : Entries) (spec : ProjectSpec) : Prop where
  configs : readConfigurations (Value.field data "configs") = .ok spec.configs
  settingGroups : tableOf <$> readConfigs "settingGroups" (settingGroupsField data) =
    .ok spec.settingGroups
  settings : readSettings "settings" (Value.field data "settings") = .ok spec.settings
  targets : readTargets (Value.field data "targets") = .ok spec.targets
  schemes : readSchemes (Value.field data "schemes") = .ok spec.schemes
  fileGroups : (Value.field data "fileGroups").listOrAbsent "fileGroups" >>= List.mapM asText =
    .ok spec.fileGroups
  configFiles : readConfigFiles "configFiles" (Value.field data "configFiles") =
    .ok spec.configFiles
  options : ∃ options, (Value.field data "options").mapOrAbsent "options" = .ok options ∧
    spec.minimumVersion = Value.field options "minimumVersion"

theorem fields_of_read {basePath : Path} {data : Entries} {spec : ProjectSpec}
    (h : read basePath name (.map data) = .ok spec) : SpecFields data spec := by
  obtain ⟨entries, hentries, h⟩ := bind_eq_ok_iff.mp h
  cases hentries
  dsimp only at h
  obtain ⟨name, h⟩ := exists_of_ite_bind h
  obtain ⟨configs, hconfigs, h⟩ := bind_eq_ok_iff.mp h
  obtain ⟨settingGroups, hgroups, h⟩ := bind_eq_ok_iff.mp h
  obtain ⟨settings, hsettings, h⟩ := bind_eq_ok_iff.mp h
  obtain ⟨targets, htargets, h⟩ := bind_eq_ok_iff.mp h
  obtain ⟨schemes, hschemes, h⟩ := bind_eq_ok_iff.mp h
  obtain ⟨items, hitems, h⟩ := bind_eq_ok_iff.mp h
  obtain ⟨fileGroups, hfileGroups, h⟩ := bind_eq_ok_iff.mp h
  obtain ⟨configFiles, hconfigFiles, h⟩ := bind_eq_ok_iff.mp h
  obtain ⟨options, hoptions, h⟩ := bind_eq_ok_iff.mp h
  cases h
  rw [readSettingGroups_eq] at hgroups
  exact ⟨hconfigs, hgroups, hsettings, htargets, hschemes,
    bind_eq_ok_iff.mpr ⟨items, hitems, hfileGroups⟩, hconfigFiles, options, hoptions, rfl⟩

end ProjectSpec

end BuildSpec
