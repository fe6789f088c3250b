import BuildSpec.Proofs.Audit.NestedSettings
import BuildSpec.Proofs.Spec.Parts
import BuildSpec.Proofs.Table

/-!
# Names that are kept

A name in a spec is the text of a key, and a key may be a value of any kind.  So two keys of one
mapping can have one name: `1` and `"1"` are different keys.  Named parts that stand in a row then
share the name, and in a table the later one takes the place of the earlier one.  This file says that
nothing else comes between the names and the keys:

* `Value.NamesApart` — no two keys of a mapping have the same text;
* `map_name_eq_of_readNamed` — the names of parts in a row are the texts of the keys, in their order;
* `length_table_eq_iff` — a table has as many entries as its mapping exactly if the names are apart;
* `targetTable`, `configTable` — the tables in which names are looked up, and `find?_eq_lookup`: names
  that are apart are found there as they are in the rows;
* `names_kept` — all of this for a spec that has been read.
-/

namespace BuildSpec

open Value

namespace Value

/-- The entries of a mapping; a value of another kind has none. -/
def entries : Value → Entries
  | map entries => entries
  | _ => []

/-- No two keys of a mapping have the same text. -/
def NamesApart (v : Value) : Prop := (v.entries.map fun e => e.1.plain).Nodup

theorem entries_of_mapOrAbsent {v : Value} {entries : Entries} {place : String}
    (h : v.mapOrAbsent place = .ok entries) : v.entries = entries := by
  rcases eq_of_mapOrAbsent h with ⟨hblank, rfl⟩ | rfl
  · cases v with
    | map inside => exact List.isEmpty_iff.mp hblank
    | _ => rfl
  · rfl

/-- Keys that are texts are apart if they are different. -/
theorem namesApart_of_texts {entries : Entries} (htexts : ∀ e ∈ entries, ∃ s, e.1 = text s)
    (hdistinct : (entries.map Prod.fst).Nodup) : (map entries).NamesApart := by
  have hkeys : entries.map Prod.fst = (entries.map fun e => e.1.plain).map text := by
    rw [List.map_map]
    refine List.map_congr_left fun e he => ?_
    obtain ⟨s, hs⟩ := htexts e he
    rw [Function.comp_apply, hs]
    rfl
  rw [hkeys] at hdistinct
  exact List.Nodup.of_map text hdistinct

end Value

namespace ProjectSpec

variable {v : Value} {place : String} {α : Type}

/-! ## Rows and tables -/

/-- The names of parts in a row are the texts of the keys, in their order. -/
theorem map_name_eq_of_readNamed {f : Value × Value → Except ShapeFault α} {name : α → String}
    {entries : Entries} {parts : List α} (hf : ∀ e part, f e = .ok part → name part = e.1.plain)
    (h : entries.mapM f = .ok parts) : parts.map name = entries.map fun e => e.1.plain := by
  have hall := forall₂_of_mapM_eq_ok h
  clear h
  induction hall with
  | nil => rfl
  | cons hfirst _ ih => rw [List.map_cons, List.map_cons, ih, hf _ _ hfirst]

/-- A table has as many entries as the mapping exactly if its names are apart. -/
theorem length_table_eq_iff {f : Value × Value → Except ShapeFault (String × α)}
    {entries : Entries} {table : List (String × α)}
    (hf : ∀ e part, f e = .ok part → part.1 = e.1.plain)
    (h : tableOf <$> entries.mapM f = .ok table) :
    table.length = entries.length ↔ (Value.map entries).NamesApart := by
  obtain ⟨written, hwritten, rfl⟩ := map_eq_ok_iff.mp h
  have hnames := map_name_eq_of_readNamed hf hwritten
  have hlength : entries.length = written.length := by
    simpa using congrArg List.length hnames.symm
  rw [NamesApart, Value.entries, ← hnames, hlength]
  exact Table.length_ofEntries_eq_iff

/-! ## Looking names up -/

section Lookup

variable (name : α → String) (parts : List α)

/-- The table of parts under their names. -/
def namedTable : List (String × α) := tableOf (parts.map fun part => (name part, part))

variable {name parts}

/-- A name is in the table if a part has it. -/
theorem isSome_lookup_namedTable (key : String) :
    ((namedTable name parts).lookup key).isSome = parts.any fun part => name part = key := by
  have hkey : ((namedTable name parts).lookup key).isSome = true ↔
      key ∈ (namedTable name parts).map Prod.fst := by
    rw [List.lookup_isSome_iff, List.mem_map]
    exact exists_congr fun e => and_congr_right fun _ => by rw [beq_iff_eq, eq_comm]
  rw [Bool.eq_iff_iff, hkey, namedTable, tableOf, Table.mem_keys_ofEntries]
  simp

/-- Names that are apart are found in the table as they are in the row. -/
theorem find?_eq_lookup (h : (parts.map name).Nodup) (key : String) :
    parts.find? (fun part => name part = key) = (namedTable name parts).lookup key := by
  have hkeys : (parts.map fun part => (name part, part)).map Prod.fst = parts.map name := by
    rw [List.map_map]
    rfl
  rw [namedTable, tableOf, Table.ofEntries_of_nodup (hkeys ▸ h)]
  clear hkeys h
  induction parts with
  | nil => rfl
  | cons part rest ih =>
      rw [List.find?_cons, List.map_cons, List.lookup_cons, ih]
      by_cases hname : name part = key
      · simp [hname]
      · simp [hname, beq_eq_false_iff_ne.mpr (Ne.symm hname)]

end Lookup

/-- The targets of a spec under their names. -/
def targetTable (spec : ProjectSpec) : List (String × Target) := namedTable Target.name spec.targets

/-- The configurations of a spec under their names. -/
def configTable (spec : ProjectSpec) : List (String × Config) := namedTable Config.name spec.configs

/-- The audit looks names up in these tables. -/
theorem isSome_lookup_tables (spec : ProjectSpec) (name : String) :
    (spec.targetTable.lookup name).isSome = spec.hasTarget name ∧
      (spec.configTable.lookup name).isSome = spec.hasConfig name :=
  ⟨isSome_lookup_namedTable name, isSome_lookup_namedTable name⟩

/-! ## Parts of a spec -/

variable {data : Value} {s t : Settings}

/-- The names of configurations are the texts of the keys; the two default ones have names of their
own. -/
theorem nodup_names_configurations {configs : List Config}
    (h : readConfigurations v = .ok configs) :
    (configs.map Config.name).Nodup ↔ v.NamesApart := by
  cases v with
  | null =>
      cases h
      exact iff_of_true (by decide) List.nodup_nil
  | map entries =>
      refine Eq.to_iff (congrArg List.Nodup (map_name_eq_of_readNamed (fun e config he => ?_) h))
      obtain ⟨name, hname, he⟩ := bind_eq_ok_iff.mp he
      obtain ⟨word, -, he⟩ := bind_eq_ok_iff.mp he
      dsimp only at he
      split at he
      · cases he
        exact eq_plain_of_asText hname
      · cases he
  | _ => cases h

/-- The names of parts in a section are the texts of the keys. -/
theorem nodup_names_section (read : String → Value → Except ShapeFault α) (name : α → String)
    {parts : List α} (hread : ∀ n value part, read n value = .ok part → name part = n)
    (h : v.mapOrAbsent place >>=
      List.mapM (fun (key, value) => do read (← key.asText) value) = .ok parts) :
    (parts.map name).Nodup ↔ v.NamesApart := by
  obtain ⟨entries, hentries, h⟩ := bind_eq_ok_iff.mp h
  rw [NamesApart, entries_of_mapOrAbsent hentries, ← map_name_eq_of_readNamed _ h]
  intro e part he
  obtain ⟨n, hn, he⟩ := bind_eq_ok_iff.mp he
  rw [hread n e.2 part he, eq_plain_of_asText hn]

/-- A table of settings has as many entries as its mapping exactly if the names are apart. -/
theorem length_settingsTable_iff {table : List (String × Settings)}
    (h : tableOf <$> readConfigs place v = .ok table) :
    table.length = v.entries.length ↔ v.NamesApart := by
  obtain ⟨written, hwritten, rfl⟩ := map_eq_ok_iff.mp h
  rw [readConfigs_eq] at hwritten
  obtain ⟨entries, hentries, hnamed⟩ := bind_eq_ok_iff.mp hwritten
  rw [NamesApart, entries_of_mapOrAbsent hentries]
  refine length_table_eq_iff (fun e part he => ?_) (map_eq_ok_iff.mpr ⟨written, hnamed, rfl⟩)
  obtain ⟨name, hname, he⟩ := bind_eq_ok_iff.mp he
  obtain ⟨settings, -, he⟩ := bind_eq_ok_iff.mp he
  cases he
  exact eq_plain_of_asText hname

/-- A row of config files has as many entries as its mapping exactly if the names are apart. -/
theorem length_configFiles_iff {files : List (String × String)}
    (h : readConfigFiles place v = .ok files) :
    files.length = v.entries.length ↔ v.NamesApart := by
  obtain ⟨entries, hentries, h⟩ := bind_eq_ok_iff.mp h
  obtain ⟨written, hwritten, h⟩ := bind_eq_ok_iff.mp h
  rw [NamesApart, entries_of_mapOrAbsent hentries]
  refine length_table_eq_iff (fun e part he => ?_)
    (map_eq_ok_iff.mpr ⟨written, hwritten, Except.ok.inj h⟩)
  obtain ⟨config, hconfig, he⟩ := bind_eq_ok_iff.mp he
  obtain ⟨path, -, he⟩ := bind_eq_ok_iff.mp he
  cases he
  exact eq_plain_of_asText hconfig

/-- Data has a value, as the settings of the spec or a target, or as settings under a name, from which
settings were read. -/
def ReadFrom (data v : Value) (s : Settings) : Prop :=
  (data.Offers .settings v ∨ data.Offers .group v) ∧ ∃ place, readGroup place v = .ok s

/-- Settings are none, or were read from a mapping, field by field unless it has none of these. -/
theorem ReadFrom.cases_entries (h : ReadFrom data v s) :
    (s.configSettings = [] ∧ Value.field v.entries "configs" = .null) ∨
      ∃ place entries, v = .map entries ∧ SettingsFields place entries s := by
  obtain ⟨-, place, h⟩ := h
  rw [readGroup] at h
  split at h
  · next hblank =>
      cases h
      refine .inl ⟨rfl, ?_⟩
      cases v with
      | map entries =>
          obtain rfl : entries = [] := List.isEmpty_iff.mp hblank
          rfl
      | _ => rfl
  · cases v with
    | null =>
        cases h
        exact .inl ⟨rfl, rfl⟩
    | map entries =>
        rcases fields_of_readSettings h with ⟨hplain, rfl⟩ | hfields
        · refine .inl ⟨rfl, ?_⟩
          have hnone : hasField entries "configs" = false := by
            simp only [settingsKeys, List.any_cons, Bool.or_eq_false_iff] at hplain
            exact hplain.2.2.1
          rw [Value.entries, Value.field, hasField_eq_false_iff.mp hnone]
          rfl
        · exact .inr ⟨place, entries, rfl, hfields⟩
    | _ => cases h

/-- Settings have as many entries for configurations as the mapping they were read from exactly if
the names are apart. -/
theorem ReadFrom.length_configSettings_iff (h : ReadFrom data v s) :
    s.configSettings.length = (Value.field v.entries "configs").entries.length ↔
      (Value.field v.entries "configs").NamesApart := by
  rcases h.cases_entries with ⟨hnone, hnull⟩ | ⟨place, entries, rfl, hfields⟩
  · rw [hnone, hnull]
    exact iff_of_true rfl List.nodup_nil
  · exact length_settingsTable_iff hfields.configSettings

/-- Settings in a table were read from a value in the mapping. -/
theorem exists_readFrom_of_mem {table : List (String × Settings)} {name : String}
    (hv : data.Offers .settingsTable v) (h : tableOf <$> readConfigs place v = .ok table)
    (hmem : (name, s) ∈ table) : ∃ w, ReadFrom data w s := by
  obtain ⟨written, hwritten, rfl⟩ := map_eq_ok_iff.mp h
  obtain ⟨-, key, hkey, -⟩ := Table.mem_ofEntries hmem
  rw [readConfigs_eq] at hwritten
  obtain ⟨entries, hentries, hnamed⟩ := bind_eq_ok_iff.mp hwritten
  obtain ⟨e, he, hread⟩ := exists_of_mem_mapM hnamed hkey
  obtain ⟨n, -, hread⟩ := bind_eq_ok_iff.mp hread
  obtain ⟨settings, hsettings, hread⟩ := bind_eq_ok_iff.mp hread
  cases hread
  exact ⟨e.2, .inr (.inr (hv.entry hentries .group he)), _, hsettings⟩

/-- Settings inside settings were read from a value inside the value. -/
theorem ReadFrom.exists_of_contains (h : ReadFrom data v s) (hst : s.Contains t) :
    ∃ w, ReadFrom data w t := by
  induction hst with
  | here => exact ⟨v, h⟩
  | @inside t u config hst hmem ih =>
      obtain ⟨w, hw⟩ := ih
      rcases hw.cases_entries with ⟨hnone, -⟩ | ⟨place, entries, rfl, hfields⟩
      · rw [hnone] at hmem
        cases hmem
      · have htable : data.Offers .settingsTable (Value.field entries "configs") := by
          rcases hw.1 with hoffers | hoffers
          · exact hoffers.field (mapOrAbsent_map place entries) (.settingsConfigs (.inl rfl))
          · exact hoffers.field (mapOrAbsent_map place entries) (.settingsConfigs (.inr rfl))
        exact exists_readFrom_of_mem htable hfields.configSettings hmem

/-- Settings that may not be blank are read as those that may be. -/
theorem readGroup_of_readSettings (h : readSettings place v = .ok s) :
    readGroup place v = .ok s := by
  rw [readGroup]
  split
  · next hblank =>
      cases v with
      | null => exact h
      | map entries =>
          obtain rfl : entries = [] := List.isEmpty_iff.mp hblank
          exact h
      | _ => cases h
  · exact h

/-- The settings of a spec, of its groups and of its targets were read from values in the data. -/
theorem exists_readFrom {basePath : Path} {defaultName : String} {data : Entries}
    {spec : ProjectSpec} (h : read basePath defaultName (.map data) = .ok spec)
    (hs : s ∈ spec.settingsValues) : ∃ v, ReadFrom (.map data) v s := by
  have hfields := fields_of_read h
  have hoffers : ∀ {key q}, Part.spec.Field key q →
      (Value.map data).Offers q (Value.field data key) :=
    fun hfield => Offers.field (.inr (.root _)) (mapOrAbsent_map "spec" data) hfield
  rcases List.mem_cons.mp hs with rfl | hs
  · exact ⟨_, .inl (hoffers .settings), _, readGroup_of_readSettings hfields.settings⟩
  · rcases List.mem_append.mp hs with hs | hs
    · obtain ⟨g, hg, rfl⟩ := List.mem_map.mp hs
      exact exists_readFrom_of_mem (offers_settingGroupsField data) hfields.settingGroups hg
    · obtain ⟨t, ht, rfl⟩ := List.mem_map.mp hs
      obtain ⟨targets, htargets, hparts⟩ := bind_eq_ok_iff.mp hfields.targets
      obtain ⟨e, he, hread⟩ := exists_of_mem_mapM hparts ht
      obtain ⟨name, -, hread⟩ := bind_eq_ok_iff.mp hread
      obtain ⟨entries, hentries, htarget⟩ := fields_of_readTarget hread
      have htargetOffers : (Value.map data).Offers .target e.2 :=
        .inr ((hoffers .targets).entry htargets .target he)
      exact ⟨_, .inl (htargetOffers.field hentries .targetSettings), _,
        readGroup_of_readSettings htarget.settings⟩

/-- What a spec keeps of the names in the data that it was read from. -/
structure NamesKept (data : Entries) (spec : ProjectSpec) : Prop where
  targets : (spec.targets.map Target.name).Nodup ↔ (Value.field data "targets").NamesApart
  configs : (spec.configs.map Config.name).Nodup ↔ (Value.field data "configs").NamesApart
  schemes : (spec.schemes.map Scheme.name).Nodup ↔ (Value.field data "schemes").NamesApart
  settingGroups : spec.settingGroups.length = (settingGroupsField data).entries.length ↔
    (settingGroupsField data).NamesApart
  configFiles : spec.configFiles.length = (Value.field data "configFiles").entries.length ↔
    (Value.field data "configFiles").NamesApart
  targetConfigFiles : List.Forall₂
    (fun e t => t.name = e.1.plain ∧
      (t.configFiles.length = (Value.field e.2.entries "configFiles").entries.length ↔
        (Value.field e.2.entries "configFiles").NamesApart))
    (Value.field data "targets").entries spec.targets
  configSettings : ∀ s ∈ spec.settingsValues, ∀ t, s.Contains t →
    (∃ v, ReadFrom (.map data) v t) ∧ ∀ v, ReadFrom (.map data) v t →
      (t.configSettings.length = (Value.field v.entries "configs").entries.length ↔
        (Value.field v.entries "configs").NamesApart)
  target? : (Value.field data "targets").NamesApart →
    ∀ name, spec.target? name = spec.targetTable.lookup name
  config? : (Value.field data "configs").NamesApart →
    ∀ name, spec.config? name = spec.configTable.lookup name

/-- **Names are kept as far as their keys have different texts.** -/
theorem names_kept {basePath : Path} {defaultName : String} {data : Entries} {spec : ProjectSpec}
    (h : read basePath defaultName (.map data) = .ok spec) : NamesKept data spec := by
  have hfields := fields_of_read h
  have htargets := nodup_names_section readTarget Target.name
    (fun _ _ _ => name_of_readTarget) hfields.targets
  have hconfigs := nodup_names_configurations hfields.configs
  refine
    { targets := htargets
      configs := hconfigs
      schemes := nodup_names_section readScheme Scheme.name
        (fun _ _ _ => name_of_readScheme) hfields.schemes
      settingGroups := length_settingsTable_iff hfields.settingGroups
      configFiles := length_configFiles_iff hfields.configFiles
      targetConfigFiles := ?_
      configSettings := ?_
      target? := fun hapart name => find?_eq_lookup (htargets.mpr hapart) name
      config? := fun hapart name => find?_eq_lookup (hconfigs.mpr hapart) name }
  · obtain ⟨entries, hentries, hparts⟩ := bind_eq_ok_iff.mp hfields.targets
    rw [entries_of_mapOrAbsent hentries]
    refine (forall₂_of_mapM_eq_ok hparts).imp fun e t hread => ?_
    obtain ⟨name, hname, hread⟩ := bind_eq_ok_iff.mp hread
    obtain ⟨inside, hinside, htarget⟩ := fields_of_readTarget hread
    rw [entries_of_mapOrAbsent hinside]
    exact ⟨htarget.name_eq.trans (eq_plain_of_asText hname),
      length_configFiles_iff htarget.configFiles⟩
  · intro s hs t hst
    obtain ⟨v, hv⟩ := exists_readFrom h hs
    obtain ⟨w, hw⟩ := hv.exists_of_contains hst
    exact ⟨⟨w, hw⟩, fun _ hread => hread.length_configSettings_iff⟩

/-- A spec with two targets, one of which has a key that is no text. -/
def switchSpec : Entries :=
  [(text "targets", .map [(.bool true, .map []), (text "App", .map [])])]

theorem switchSpec_keeps_names :
    ∃ spec, read .here "Tools" (.map switchSpec) = .ok spec ∧
      spec.targets.map Target.name = ["True", "App"] ∧ NamesKept switchSpec spec :=
  ⟨_, rfl, rfl, names_kept (show read .here "Tools" (.map switchSpec) = .ok _ from rfl)⟩

/-- A spec with two targets and two groups of settings whose keys are different and have the same
text. -/
def twinSpec : Entries :=
  [(text "targets", .map
      [(.bool true, .map [(text "type", text "app")]),
        (text "True", .map [(text "type", text "library")])]),
    (text "settingGroups", .map
      [(.bool true, .map [(text "A", text "1")]), (text "True", .map [(text "B", text "2")])])]

/-- Names are not always kept: the targets share a name, so that the first one is found in the row
and the last one in the table, and one of the groups takes the place of the other. -/
theorem twinSpec_loses_names :
    ∃ spec, read .here "Tools" (.map twinSpec) = .ok spec ∧
      spec.targets.map Target.name = ["True", "True"] ∧
      (settingGroupsField twinSpec).entries.length = 2 ∧ spec.settingGroups.length = 1 ∧
      (spec.target? "True").map Target.type = some "app" ∧
      (spec.targetTable.lookup "True").map Target.type = some "library" :=
  ⟨_, rfl, rfl, rfl, rfl, rfl, rfl⟩

end ProjectSpec

end BuildSpec
