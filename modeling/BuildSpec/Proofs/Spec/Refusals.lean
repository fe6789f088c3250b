import BuildSpec.Proofs.Spec.Parts

/-!
# Data that is no spec

Reading stops at the first part that has not the shape of what is expected.  This file says what the
reader goes on with where it expects a part, and what it tells where it stops:

* `Part.Admits` — a part is a mapping or a list, and most parts may be blank instead;
* `Slot.isRead`, `Part.IsRead.admits` — where a spec is read, all its parts are, and so none of them
  is of another kind;
* `ShapeFault.FoundIn` — a fault is about the shape of data, or about a whole number in it that is
  too long to be written;
* `faults_settings`, `faults_target`, `faults_scheme` — the faults of the readers of the parts;
* `other_kinds_are_refused` — the faults of the reader as a whole;
* `variants_of_any_kind` — the names in the scheme of a target, of which no kind is expected.
-/

namespace BuildSpec

open Value

/-- Every fault is about the shape of data but for two: that a value has no items is told of names
in the scheme of a target alone, and that a number is too long is told of any text. -/
def ShapeFault.isAboutShape : ShapeFault → Bool
  | noItems _ | tooLong _ => false
  | _ => true

/-- A fault may be found in data: it is about the shape, or there is a whole number in the data that
is too long to be written. -/
def ShapeFault.FoundIn (data : Value) (fault : ShapeFault) : Prop :=
  fault.isAboutShape = true ∨ (data.isWritable = false ∧ ∃ length, fault = .tooLong length)

namespace Part

/-- The parts that are lists.  The other ones are mappings. -/
def isList : Part → Bool
  | .names | .dependencies | .scripts | .schemeNames => true
  | _ => false

/-- A value is of the kind of a part. -/
def Fits (p : Part) (v : Value) : Prop :=
  if p.isList then ∃ items, v = .list items else ∃ entries, v = .map entries

/-- A value is taken for the absence of a part.  The spec as a whole and the items of a list are
never absent, a few parts are absent only if they are null, and the other ones if they are blank. -/
def Absent : Part → Value → Prop
  | .spec, _ | .dependency, _ | .script, _ => False
  | .configurations, v | .settings, v | .targetScheme, v | .action, v => v = .null
  | _, v => v.isBlank = true

/-- The values that the reader goes on with where it expects a part. -/
def Admits (p : Part) (v : Value) : Prop := p.Absent v ∨ p.Fits v

/-- The reader of a part comes to something. -/
def IsRead : Part → Value → Prop
  | .spec, v => ∃ basePath name spec, ProjectSpec.read basePath name v = .ok spec
  | .options, v | .base, v | .buildTargets, v =>
    ∃ place entries, v.mapOrAbsent place = .ok entries
  | .configurations, v => ∃ configs, ProjectSpec.readConfigurations v = .ok configs
  | .settings, v => ∃ place settings, ProjectSpec.readSettings place v = .ok settings
  | .settingsTable, v => ∃ place table, ProjectSpec.readConfigs place v = .ok table
  | .group, v => ∃ place settings, ProjectSpec.readGroup place v = .ok settings
  | .names, v => ∃ place items, v.listOrAbsent place = .ok items
  | .configFiles, v => ∃ place files, ProjectSpec.readConfigFiles place v = .ok files
  | .targets, v => ∃ targets, ProjectSpec.readTargets v = .ok targets
  | .target, v => ∃ name target, ProjectSpec.readTarget name v = .ok target
  | .dependencies, v => ∃ place dependencies,
    v.listOrAbsent place >>= List.mapM (ProjectSpec.readDependency place) = .ok dependencies
  | .dependency, v => ∃ place dependency, ProjectSpec.readDependency place v = .ok dependency
  | .scripts, v => ∃ place scripts, ProjectSpec.readScripts place v = .ok scripts
  | .script, v => ∃ place script, ProjectSpec.readScript place v = .ok script
  | .targetScheme, v => ∃ place scheme, ProjectSpec.readTargetScheme place v = .ok scheme
  | .schemeNames, v => ∃ names, v.textsOrAbsent = .ok names
  | .schemes, v => ∃ schemes, ProjectSpec.readSchemes v = .ok schemes
  | .scheme, v => ∃ name scheme, ProjectSpec.readScheme name v = .ok scheme
  | .build, v => ∃ place inner entries targets,
    v.mapOrAbsent place = .ok entries ∧
      (Value.field entries "targets").mapOrAbsent inner = .ok targets
  | .action, v => ∃ place config, ProjectSpec.readAction place v = .ok config

/-! ## Parts that have been read -/

section IsRead

open ProjectSpec

variable {p q : Part} {v : Value} {entries : Entries} {key : String}

theorem admits_of_mapOrAbsent {place : String} (h : v.mapOrAbsent place = .ok entries) :
    v.isBlank = true ∨ ∃ entries, v = .map entries := by
  rcases eq_of_mapOrAbsent h with ⟨hblank, -⟩ | hmap
  · exact .inl hblank
  · exact .inr ⟨entries, hmap⟩

theorem admits_of_listOrAbsent {place : String} {items : List Value}
    (h : v.listOrAbsent place = .ok items) : v.isBlank = true ∨ ∃ items, v = .list items := by
  rcases eq_of_listOrAbsent h with ⟨hblank, -⟩ | hlist
  · exact .inl hblank
  · exact .inr ⟨items, hlist⟩

theorem admits_of_readSettings {place : String} {s : Settings}
    (h : readSettings place v = .ok s) : v = .null ∨ ∃ entries, v = .map entries := by
  cases v with
  | null => exact .inl rfl
  | map entries => exact .inr ⟨entries, rfl⟩
  | _ => cases h

/-- A part that is read is absent or of its kind.  The names in the scheme of a target are read out
of values of any kind. -/
theorem IsRead.admits (h : p.IsRead v) (hp : p ≠ .schemeNames) : p.Admits v := by
  cases p with
  | spec =>
      obtain ⟨basePath, name, spec, h⟩ := h
      obtain ⟨entries, hentries, -⟩ := bind_eq_ok_iff.mp h
      exact .inr ⟨entries, eq_map_of_expectMap hentries⟩
  | options | base | buildTargets =>
      obtain ⟨place, entries, h⟩ := h
      exact admits_of_mapOrAbsent h
  | configurations =>
      obtain ⟨configs, h⟩ := h
      cases v with
      | null => exact .inl rfl
      | map entries => exact .inr ⟨entries, rfl⟩
      | _ => cases h
  | settings =>
      obtain ⟨place, settings, h⟩ := h
      exact admits_of_readSettings h
  | settingsTable =>
      obtain ⟨place, table, h⟩ := h
      rw [readConfigs_eq] at h
      obtain ⟨entries, hentries, -⟩ := bind_eq_ok_iff.mp h
      exact admits_of_mapOrAbsent hentries
  | group =>
      obtain ⟨place, settings, h⟩ := h
      rw [readGroup] at h
      split at h
      · next hblank => exact .inl hblank
      · next hblank =>
          rcases admits_of_readSettings h with rfl | hmap
          · exact absurd rfl hblank
          · exact .inr hmap
  | names =>
      obtain ⟨place, items, h⟩ := h
      exact admits_of_listOrAbsent h
  | configFiles =>
      obtain ⟨place, files, h⟩ := h
      obtain ⟨entries, hentries, -⟩ := bind_eq_ok_iff.mp h
      exact admits_of_mapOrAbsent hentries
  | targets | schemes =>
      obtain ⟨parts, h⟩ := h
      obtain ⟨entries, hentries, -⟩ := bind_eq_ok_iff.mp h
      exact admits_of_mapOrAbsent hentries
  | target =>
      obtain ⟨name, target, h⟩ := h
      obtain ⟨entries, hentries, -⟩ := fields_of_readTarget h
      exact admits_of_mapOrAbsent hentries
  | dependencies | scripts =>
      obtain ⟨place, parts, h⟩ := h
      obtain ⟨items, hitems, -⟩ := bind_eq_ok_iff.mp h
      exact admits_of_listOrAbsent hitems
  | dependency | script =>
      obtain ⟨place, part, h⟩ := h
      obtain ⟨entries, hentries, -⟩ := bind_eq_ok_iff.mp h
      exact .inr ⟨entries, eq_map_of_expectMap hentries⟩
  | targetScheme | action =>
      obtain ⟨place, part, h⟩ := h
      cases v with
      | null => exact .inl rfl
      | map entries => exact .inr ⟨entries, rfl⟩
      | _ => cases h
  | schemeNames => exact absurd rfl hp
  | scheme =>
      obtain ⟨name, scheme, h⟩ := h
      obtain ⟨entries, hentries, -⟩ := fields_of_readScheme h
      exact admits_of_mapOrAbsent hentries
  | build =>
      obtain ⟨place, inner, entries, targets, hentries, -⟩ := h
      exact admits_of_mapOrAbsent hentries

/-- Settings that are read and have one of the keys for structure are read field by field. -/
theorem IsRead.settingsFields (h : p.IsRead (.map entries)) (hp : p = .settings ∨ p = .group)
    (hkey : settingsKeys.any (hasField entries) = true) :
    ∃ place s, SettingsFields place entries s := by
  have hread : ∃ place s, readSettings place (.map entries) = .ok s := by
    rcases hp with rfl | rfl
    · exact h
    · obtain ⟨place, s, h⟩ := h
      rw [readGroup, if_neg] at h
      · exact ⟨place, s, h⟩
      · intro hblank
        rw [List.isEmpty_iff.mp hblank] at hkey
        cases hkey
  obtain ⟨place, s, hread⟩ := hread
  rcases fields_of_readSettings hread with ⟨hplain, -⟩ | hfields
  · rw [hplain] at hkey
    cases hkey
  · exact ⟨place, s, hfields⟩

theorem IsRead.specFields (h : Part.spec.IsRead (.map entries)) :
    ∃ spec, SpecFields entries spec := by
  obtain ⟨basePath, name, spec, hread⟩ := h
  exact ⟨spec, fields_of_read hread⟩

theorem IsRead.targetFields (h : Part.target.IsRead (.map entries)) :
    ∃ name t, TargetFields name entries t := by
  obtain ⟨name, t, hread⟩ := h
  obtain ⟨inside, hinside, hfields⟩ := fields_of_readTarget hread
  rw [mapOrAbsent_map] at hinside
  cases hinside
  exact ⟨name, t, hfields⟩

theorem IsRead.schemeFields (h : Part.scheme.IsRead (.map entries)) :
    ∃ name s, SchemeFields name entries s := by
  obtain ⟨name, s, hread⟩ := h
  obtain ⟨inside, hinside, hfields⟩ := fields_of_readScheme hread
  rw [mapOrAbsent_map] at hinside
  cases hinside
  exact ⟨name, s, hfields⟩

/-- Where a part is read, so is the part in one of its fields. -/
theorem IsRead.field (h : p.IsRead (.map entries)) (hfield : p.Field key q)
    (hv : field? entries key = some v) : q.IsRead v := by
  have heq : Value.field entries key = v := by
    rw [Value.field, hv]
    rfl
  have hstructured : key ∈ settingsKeys → settingsKeys.any (hasField entries) = true := by
    intro hmem
    refine List.any_eq_true.mpr ⟨key, hmem, ?_⟩
    rw [hasField, hv]
    rfl
  cases hfield with
  | options =>
      obtain ⟨spec, hfields⟩ := h.specFields
      obtain ⟨options, hoptions, -⟩ := hfields.options
      exact ⟨_, options, heq ▸ hoptions⟩
  | configs =>
      obtain ⟨spec, hfields⟩ := h.specFields
      exact ⟨_, heq ▸ hfields.configs⟩
  | settings =>
      obtain ⟨spec, hfields⟩ := h.specFields
      exact ⟨_, _, heq ▸ hfields.settings⟩
  | settingGroups =>
      obtain ⟨spec, hfields⟩ := h.specFields
      obtain ⟨table, htable, -⟩ := map_eq_ok_iff.mp hfields.settingGroups
      rw [settingGroupsField, heq] at htable
      split at htable
      · exact ⟨"", [], rfl⟩
      · exact ⟨_, table, htable⟩
  | targets =>
      obtain ⟨spec, hfields⟩ := h.specFields
      exact ⟨_, heq ▸ hfields.targets⟩
  | schemes =>
      obtain ⟨spec, hfields⟩ := h.specFields
      exact ⟨_, heq ▸ hfields.schemes⟩
  | fileGroups =>
      obtain ⟨spec, hfields⟩ := h.specFields
      obtain ⟨items, hitems, -⟩ := bind_eq_ok_iff.mp hfields.fileGroups
      exact ⟨_, items, heq ▸ hitems⟩
  | configFiles =>
      obtain ⟨spec, hfields⟩ := h.specFields
      exact ⟨_, _, heq ▸ hfields.configFiles⟩
  | targetDependencies =>
      obtain ⟨name, t, hfields⟩ := h.targetFields
      exact ⟨_, _, heq ▸ hfields.dependencies⟩
  | targetConfigFiles =>
      obtain ⟨name, t, hfields⟩ := h.targetFields
      exact ⟨_, _, heq ▸ hfields.configFiles⟩
  | targetScheme =>
      obtain ⟨name, t, hfields⟩ := h.targetFields
      exact ⟨_, _, heq ▸ hfields.scheme⟩
  | prebuildScripts =>
      obtain ⟨name, t, hfields⟩ := h.targetFields
      exact ⟨_, _, heq ▸ hfields.prebuildScripts⟩
  | postbuildScripts =>
      obtain ⟨name, t, hfields⟩ := h.targetFields
      exact ⟨_, _, heq ▸ hfields.postbuildScripts⟩
  | targetSettings =>
      obtain ⟨name, t, hfields⟩ := h.targetFields
      exact ⟨_, _, heq ▸ hfields.settings⟩
  | configVariants =>
      obtain ⟨place, scheme, h⟩ := h
      obtain ⟨inside, hinside, h⟩ := bind_eq_ok_iff.mp h
      cases hinside
      obtain ⟨variants, hvariants, -⟩ := bind_eq_ok_iff.mp h
      exact ⟨variants, heq ▸ hvariants⟩
  | testTargets =>
      obtain ⟨place, scheme, h⟩ := h
      obtain ⟨inside, hinside, h⟩ := bind_eq_ok_iff.mp h
      cases hinside
      obtain ⟨variants, -, h⟩ := bind_eq_ok_iff.mp h
      obtain ⟨tests, htests, -⟩ := bind_eq_ok_iff.mp h
      exact ⟨tests, heq ▸ htests⟩
  | base hp =>
      obtain ⟨place, s, hfields⟩ := h.settingsFields hp (hstructured (by decide))
      exact ⟨_, _, heq ▸ hfields.base⟩
  | groups hp =>
      obtain ⟨place, s, hfields⟩ := h.settingsFields hp (hstructured (by decide))
      obtain ⟨items, hitems⟩ := hfields.groups
      exact ⟨_, items, heq ▸ hitems⟩
  | settingsConfigs hp =>
      obtain ⟨place, s, hfields⟩ := h.settingsFields hp (hstructured (by decide))
      obtain ⟨table, htable, -⟩ := map_eq_ok_iff.mp hfields.configSettings
      exact ⟨_, table, heq ▸ htable⟩
  | build =>
      obtain ⟨name, s, hfields⟩ := h.schemeFields
      obtain ⟨build, targets, hbuild, htargets, -⟩ := hfields.build
      exact ⟨_, _, build, targets, heq ▸ hbuild, htargets⟩
  | action a =>
      obtain ⟨name, s, hfields⟩ := h.schemeFields
      obtain ⟨config, hconfig⟩ := hfields.action a
      exact ⟨_, config, heq ▸ hconfig⟩
  | buildTargets =>
      obtain ⟨place, inner, inside, targets, hinside, htargets⟩ := h
      rw [mapOrAbsent_map] at hinside
      cases hinside
      exact ⟨inner, targets, heq ▸ htargets⟩

/-- Where a mapping of named parts is read, so is each of them. -/
theorem IsRead.entry {e : Value × Value} (h : p.IsRead (.map entries)) (hentry : p.Entry q)
    (he : e ∈ entries) : q.IsRead e.2 := by
  cases hentry with
  | group =>
      obtain ⟨place, table, h⟩ := h
      rw [readConfigs_eq, mapOrAbsent_map] at h
      obtain ⟨named, -, hnamed⟩ := exists_of_mapM_eq_ok h he
      obtain ⟨name, -, hnamed⟩ := bind_eq_ok_iff.mp hnamed
      obtain ⟨settings, hsettings, -⟩ := bind_eq_ok_iff.mp hnamed
      exact ⟨_, settings, hsettings⟩
  | target =>
      obtain ⟨targets, h⟩ := h
      rw [readTargets, mapOrAbsent_map] at h
      obtain ⟨target, -, htarget⟩ := exists_of_mapM_eq_ok h he
      obtain ⟨name, -, htarget⟩ := bind_eq_ok_iff.mp htarget
      exact ⟨name, target, htarget⟩
  | scheme =>
      obtain ⟨schemes, h⟩ := h
      rw [readSchemes, mapOrAbsent_map] at h
      obtain ⟨scheme, -, hscheme⟩ := exists_of_mapM_eq_ok h he
      obtain ⟨name, -, hscheme⟩ := bind_eq_ok_iff.mp hscheme
      exact ⟨name, scheme, hscheme⟩

/-- Where a list of parts is read, so is each of them. -/
theorem IsRead.item {items : List Value} {item : Value} (h : p.IsRead (.list items))
    (hitem : p.Item q) (hmem : item ∈ items) : q.IsRead item := by
  cases hitem with
  | dependency =>
      obtain ⟨place, dependencies, h⟩ := h
      rw [listOrAbsent_list] at h
      obtain ⟨dependency, -, hdependency⟩ := exists_of_mapM_eq_ok h hmem
      exact ⟨place, dependency, hdependency⟩
  | script =>
      obtain ⟨place, scripts, h⟩ := h
      rw [readScripts, listOrAbsent_list] at h
      obtain ⟨script, -, hscript⟩ := exists_of_mapM_eq_ok h hmem
      exact ⟨place, script, hscript⟩

end IsRead

end Part

/-- **Where a spec is read, all its parts are.** -/
theorem Slot.isRead {p : Part} {put : Value → Value} (hslot : Slot p put) {v : Value}
    (h : Part.spec.IsRead (put v)) : p.IsRead v := by
  induction hslot generalizing v with
  | spec => exact h
  | presets hnew hnone =>
      obtain ⟨basePath, name, spec, h⟩ := h
      obtain ⟨table, htable, -⟩ := map_eq_ok_iff.mp (ProjectSpec.fields_of_read h).settingGroups
      refine ⟨"settingGroups", table, ?_⟩
      simpa [ProjectSpec.settingGroupsField, field_put hnew, hnone] using htable
  | field hp hfield hnew ih =>
      refine (ih h).field hfield ?_
      rw [field?_put hnew, if_pos rfl]
  | entry hp hentry ih => exact (ih h).entry hentry (List.mem_append_right _ List.mem_cons_self)
  | item hp hitem ih => exact (ih h).item hitem (List.mem_append_right _ List.mem_cons_self)

/-! ## The faults of the readers -/

namespace Value

variable {data v : Value} {p : Part}

/-- Where all whole numbers in data can be written, so can those in a part of it. -/
theorem Holds.isWritable (h : data.Holds p v) (hdata : data.isWritable = true) :
    v.isWritable = true := by
  obtain ⟨put, hslot, rfl⟩ := h
  induction hslot generalizing v with
  | spec => exact hdata
  | presets => exact (isWritable_of_mem_entries hdata (List.mem_append_right _ List.mem_cons_self)).2
  | field _ _ _ ih =>
      exact (isWritable_of_mem_entries (ih hdata) (List.mem_append_right _ List.mem_cons_self)).2
  | entry _ _ ih =>
      exact (isWritable_of_mem_entries (ih hdata) (List.mem_append_right _ List.mem_cons_self)).2
  | item _ _ ih =>
      exact isWritable_of_mem_items (ih hdata) (List.mem_append_right _ List.mem_cons_self)

theorem isWritable_of_mapOrAbsent {entries : Entries} {place : String}
    (h : v.mapOrAbsent place = .ok entries) (hv : v.isWritable = true) :
    (Value.map entries).isWritable = true := by
  rcases eq_of_mapOrAbsent h with ⟨-, rfl⟩ | rfl
  · rfl
  · exact hv

theorem isWritable_field {entries : Entries} (h : (Value.map entries).isWritable = true)
    (key : String) : (field entries key).isWritable = true := by
  rcases field_eq_null_or entries key with hnull | hsome
  · rw [hnull]
    rfl
  · exact isWritable_of_field? h hsome

theorem Offers.isWritable (h : data.Offers p v) (hdata : data.isWritable = true) :
    v.isWritable = true := by
  rcases h with rfl | h
  · rfl
  · exact h.isWritable hdata

end Value

/-- Where nothing but a number that is too long can be met, the faults are as they should be. -/
theorem Reads.faults {α : Type} {data : Value} {e : Except ShapeFault α}
    (h : Reads (data.isWritable = true) e) : Faults (ShapeFault.FoundIn data) e := by
  rcases h with ⟨a, rfl⟩ | ⟨hnot, length, rfl⟩
  · exact .ok a
  · exact .error (.inr ⟨by simpa using hnot, length, rfl⟩)

namespace ProjectSpec

open ShapeFault

variable {data v : Value} {entries : Entries}

theorem faults_expectMap (place : String) (v : Value) :
    Faults (FoundIn data) (v.expectMap place) := by
  cases v with
  | map entries => exact .ok entries
  | _ => exact .error (.inl rfl)

theorem faults_expectList (place : String) (v : Value) :
    Faults (FoundIn data) (v.expectList place) := by
  cases v with
  | list items => exact .ok items
  | _ => exact .error (.inl rfl)

theorem faults_mapOrAbsent (place : String) (v : Value) :
    Faults (FoundIn data) (v.mapOrAbsent place) := by
  unfold mapOrAbsent
  split
  · exact .ok []
  · exact faults_expectMap place v

theorem faults_listOrAbsent (place : String) (v : Value) :
    Faults (FoundIn data) (v.listOrAbsent place) := by
  unfold listOrAbsent
  split
  · exact .ok []
  · exact faults_expectList place v

theorem faults_asText (hw : data.isWritable = true → v.isWritable = true) :
    Faults (FoundIn data) v.asText :=
  (reads_asText hw).faults

/-- The text of a field, or of another value where there is none. -/
theorem faults_field_asText {key : String} {other : Value}
    (hw : data.isWritable = true → (Value.map entries).isWritable = true)
    (hother : other.isWritable = true) :
    Faults (FoundIn data) ((field? entries key).getD other).asText := by
  cases hfield : field? entries key with
  | none => exact faults_asText fun _ => hother
  | some w => exact faults_asText fun hdata => isWritable_of_field? (hw hdata) hfield

theorem faults_asTexts {items : List Value}
    (hw : data.isWritable = true → (Value.list items).isWritable = true) :
    Faults (FoundIn data) (items.mapM asText) :=
  .mapM fun _ hitem => faults_asText fun hdata => isWritable_of_mem_items (hw hdata) hitem

/-- Named parts are read under the texts of their keys. -/
theorem faults_named {α : Type} {read : String → Value → Except ShapeFault α}
    (hw : data.isWritable = true → (Value.map entries).isWritable = true)
    (hread : ∀ e ∈ entries, ∀ name, Faults (FoundIn data) (read name e.2)) :
    Faults (FoundIn data) (entries.mapM fun (key, value) => do read (← key.asText) value) := by
  refine .mapM fun e he => ?_
  exact (faults_asText fun hdata => (isWritable_of_mem_entries (hw hdata) he).1).bind
    fun name _ => hread e he name

/-- The names in a list are read as texts. -/
theorem faults_names {place : String} {items : List Value} (hv : data.Offers .names v)
    (hitems : v.listOrAbsent place = .ok items) : Faults (FoundIn data) (items.mapM asText) := by
  rcases eq_of_listOrAbsent hitems with ⟨-, rfl⟩ | rfl
  · exact .ok []
  · exact faults_asTexts hv.isWritable

/-! ### Settings -/

/-- A table of settings tells of what its settings tell of. -/
theorem faults_configs (hv : data.Offers .settingsTable v)
    (hread : ∀ entries e, v = .map entries → e ∈ entries → ∀ place,
      Faults (FoundIn data) (readSettings place e.2)) (place : String) :
    Faults (FoundIn data) (readConfigs place v) := by
  rw [readConfigs_eq]
  refine (faults_mapOrAbsent place v).bind fun entries hentries => .mapM fun e he => ?_
  have hw := fun hdata => isWritable_of_mapOrAbsent hentries (hv.isWritable hdata)
  refine (faults_asText fun hdata => (isWritable_of_mem_entries (hw hdata) he).1).bind
    fun name _ => ?_
  have hgroup : Faults (FoundIn data) (readGroup (place ++ "." ++ name) e.2) := by
    unfold readGroup
    split
    · exact .ok _
    · exact hread entries e (eq_map_of_mem hentries he) he _
  exact hgroup.bind fun settings _ => .ok _

/-- Settings, however deep they are. -/
theorem faults_settings {p : Part} (hp : p = .settings ∨ p = .group) (hv : data.Offers p v)
    (place : String) : Faults (FoundIn data) (readSettings place v) := by
  -- the settings for configurations are settings in a table, and told of in the same way
  induction v using induct_settings generalizing p place with
  | h v ih =>
      cases v with
      | null => exact .ok _
      | map entries =>
          have hconfigs : ∀ place, Faults (FoundIn data) (readConfigsIn place entries) := by
            intro place
            rw [readConfigsIn_eq_field]
            have htable := hv.field (mapOrAbsent_map place entries) (.settingsConfigs hp)
            refine faults_configs htable (fun inside e hinside he place => ?_) place
            have hgroup := htable.entry (hinside ▸ mapOrAbsent_map place inside) .group he
            exact ih entries inside e rfl hinside he (.inr rfl) (.inr hgroup) place
          rw [readSettings]
          split
          · exact .ok _
          · refine (faults_listOrAbsent _ _).bind fun items hitems => ?_
            refine (hconfigs _).bind fun configs _ => ?_
            refine (faults_mapOrAbsent _ _).bind fun base _ => ?_
            exact (faults_names (hv.field (mapOrAbsent_map place entries) (.groups hp)) hitems).bind
              fun groups _ => .ok _
      | _ => exact .error (.inl rfl)

/-! ### Targets -/

theorem faults_configFiles (hv : data.Offers .configFiles v) (place : String) :
    Faults (FoundIn data) (readConfigFiles place v) := by
  unfold readConfigFiles
  refine (faults_mapOrAbsent place v).bind fun entries hentries => ?_
  refine Faults.bind (.mapM fun e he => ?_) fun files _ => .ok _
  have hw := fun hdata =>
    isWritable_of_mem_entries (isWritable_of_mapOrAbsent hentries (hv.isWritable hdata)) he
  refine (faults_asText fun hdata => (hw hdata).1).bind fun config _ => ?_
  exact (faults_asText fun hdata => (hw hdata).2).bind fun path _ => .ok _

theorem faults_source (hw : data.isWritable = true → v.isWritable = true) (place : String) :
    Faults (FoundIn data) (readSource place v) := by
  have hother : Faults (FoundIn data) (α := String)
      (do throw (ShapeFault.source place (← v.writeShown.mapError .tooLong))) := by
    unfold writeShown
    by_cases hv : v.isWritable = true
    · simp only [hv, if_true]
      exact .error (.inl rfl)
    · simp only [hv]
      exact .error (.inr ⟨by simpa using fun hdata => hv (hw hdata), _, rfl⟩)
  unfold readSource
  split
  · exact faults_asText hw
  · next entries =>
      dsimp only
      split
      · next path hpath => exact faults_asText fun hdata => isWritable_of_field? (hw hdata) hpath
      · exact hother
  · exact hother

theorem faults_sources (hw : data.isWritable = true → v.isWritable = true) (place : String) :
    Faults (FoundIn data) (readSources place v) := by
  unfold readSources
  split
  · exact .ok []
  · exact .ok _
  · refine (faults_expectList place v).bind fun items hitems => .mapM fun item hitem => ?_
    obtain rfl := eq_list_of_expectList hitems
    exact faults_source (fun hdata => isWritable_of_mem_items (hw hdata) hitem) place

theorem faults_dependency (hv : data.Holds .dependency v) (place : String) :
    Faults (FoundIn data) (readDependency place v) := by
  unfold readDependency
  refine (faults_expectMap place v).bind fun entries hentries => ?_
  obtain rfl := eq_map_of_expectMap hentries
  split
  · next kind reference hfound =>
      obtain ⟨kind', -, hmap⟩ := List.exists_of_findSome?_eq_some hfound
      obtain ⟨found, hfield, hpair⟩ := Option.map_eq_some_iff.mp hmap
      cases hpair
      exact (faults_asText fun hdata => isWritable_of_field? (hv.isWritable hdata) hfield).bind
        fun _ _ => .ok _
  · exact .error (.inl rfl)

theorem faults_script (hv : data.Holds .script v) (place : String) :
    Faults (FoundIn data) (readScript place v) := by
  unfold readScript
  refine (faults_expectMap place v).bind fun entries hentries => ?_
  obtain rfl := eq_map_of_expectMap hentries
  have htext : ∀ {key w}, field? entries key = some w → Faults (FoundIn data) w.asText :=
    fun hfield => faults_asText fun hdata => isWritable_of_field? (hv.isWritable hdata) hfield
  extract_lets rest
  have hname : ∀ source, Faults (FoundIn data) (rest source) := by
    intro source
    unfold rest
    split
    · exact .ok _
    · refine Faults.bind (faults_asText fun hdata => ?_) fun name _ => .ok _
      exact isWritable_field (hv.isWritable hdata) "name"
  split
  · next hpath => exact ((htext hpath).map _).bind fun source _ => hname source
  · next hscript => exact ((htext hscript).map _).bind fun source _ => hname source
  · exact .error (.inl rfl)

theorem faults_scripts (hv : data.Offers .scripts v) (place : String) :
    Faults (FoundIn data) (readScripts place v) := by
  unfold readScripts
  refine (faults_listOrAbsent place v).bind fun items hitems => .mapM fun item hitem => ?_
  exact faults_script (hv.item hitems .script hitem) place

/-- The names in the scheme of a target are read if they are a list. -/
theorem faults_schemeNames (hv : data.Offers .schemeNames v)
    (hnames : Part.schemeNames.Admits v) : Faults (FoundIn data) v.textsOrAbsent := by
  unfold textsOrAbsent
  split
  · exact .ok []
  · next hblank =>
      obtain ⟨items, rfl⟩ := hnames.resolve_left hblank
      exact faults_asTexts hv.isWritable

section Targets

variable (hnames : ∀ w, data.Holds .schemeNames w → Part.schemeNames.Admits w)

include hnames

theorem faults_targetScheme (hv : data.Offers .targetScheme v) (place : String) :
    Faults (FoundIn data) (readTargetScheme place v) := by
  have hadmits : ∀ w, data.Offers .schemeNames w → Part.schemeNames.Admits w := by
    rintro w (rfl | hw)
    · exact .inl rfl
    · exact hnames w hw
  unfold readTargetScheme
  split
  · exact .ok none
  · refine (faults_expectMap place v).bind fun entries hentries => ?_
    obtain rfl := eq_map_of_expectMap hentries
    have hvariants := hv.field (mapOrAbsent_map place entries) .configVariants
    have htests := hv.field (mapOrAbsent_map place entries) .testTargets
    refine (faults_schemeNames hvariants (hadmits _ hvariants)).bind fun variants _ => ?_
    exact (faults_schemeNames htests (hadmits _ htests)).bind fun tests _ => .ok _

theorem faults_target (hv : data.Offers .target v) (name : String) :
    Faults (FoundIn data) (readTarget name v) := by
  unfold readTarget
  refine (faults_mapOrAbsent _ v).bind fun entries hentries => ?_
  have hw := fun hdata => isWritable_of_mapOrAbsent hentries (hv.isWritable hdata)
  refine (faults_targetScheme hnames (hv.field hentries .targetScheme) _).bind fun _ _ => ?_
  refine (faults_field_asText hw rfl).bind fun _ _ => ?_
  refine (faults_field_asText hw rfl).bind fun _ _ => ?_
  refine (faults_sources (fun hdata => isWritable_field (hw hdata) "sources") _).bind fun _ _ => ?_
  refine (faults_listOrAbsent _ _).bind fun items hitems => ?_
  refine Faults.bind (.mapM fun item hitem => faults_dependency
    ((hv.field hentries .targetDependencies).item hitems .dependency hitem) _) fun _ _ => ?_
  refine (faults_configFiles (hv.field hentries .targetConfigFiles) _).bind fun _ _ => ?_
  refine (faults_scripts (hv.field hentries .prebuildScripts) _).bind fun _ _ => ?_
  refine (faults_scripts (hv.field hentries .postbuildScripts) _).bind fun _ _ => ?_
  exact (faults_settings (.inl rfl) (hv.field hentries .targetSettings) _).bind fun _ _ => .ok _

end Targets

/-! ### Schemes -/

theorem faults_action (hv : data.Offers .action v) (place : String) :
    Faults (FoundIn data) (readAction place v) := by
  unfold readAction
  split
  · exact .ok none
  · refine (faults_expectMap place v).bind fun entries hentries => ?_
    obtain rfl := eq_map_of_expectMap hentries
    split
    · next config hfield =>
        exact (faults_asText fun hdata => isWritable_of_field? (hv.isWritable hdata) hfield).bind
          fun _ _ => .ok _
    · exact .error (.inl rfl)

theorem faults_buildTarget (hw : data.isWritable = true → v.isWritable = true)
    (place name : String) : Faults (FoundIn data) (readBuildTarget place name v) := by
  unfold readBuildTarget
  split
  · exact .ok _
  · exact (faults_asTexts hw).bind fun _ _ => .ok _
  · exact .error (.inl rfl)

theorem faults_scheme (hv : data.Offers .scheme v) (name : String) :
    Faults (FoundIn data) (readScheme name v) := by
  unfold readScheme
  refine (faults_mapOrAbsent _ v).bind fun entries hentries => ?_
  have haction : ∀ a : SchemeAction, Faults (FoundIn data)
      (readAction ("schemes." ++ name ++ "." ++ a.text) (field entries a.text)) :=
    fun a => faults_action (hv.field hentries (.action a)) _
  have hbuildHeld := hv.field hentries .build
  refine (faults_mapOrAbsent _ _).bind fun build hbuild => ?_
  refine (haction .run).bind fun _ _ => ?_
  refine (haction .test).bind fun _ _ => ?_
  refine (haction .profile).bind fun _ _ => ?_
  refine (haction .analyze).bind fun _ _ => ?_
  refine (haction .archive).bind fun _ _ => ?_
  refine (faults_mapOrAbsent _ _).bind fun targets htargets => ?_
  have hw := fun hdata => isWritable_of_mapOrAbsent htargets
    ((hbuildHeld.field hbuild .buildTargets).isWritable hdata)
  refine Faults.bind (faults_named hw fun e he target => ?_) fun _ _ => .ok _
  exact faults_buildTarget (fun hdata => (isWritable_of_mem_entries (hw hdata) he).2) _ target

/-! ### Specs -/

theorem faults_configurations (hv : data.Offers .configurations v) :
    Faults (FoundIn data) (readConfigurations v) := by
  unfold readConfigurations
  split
  · exact .ok _
  · refine (faults_expectMap "configs" v).bind fun entries hentries => .mapM fun e he => ?_
    obtain rfl := eq_map_of_expectMap hentries
    have hw := fun hdata => isWritable_of_mem_entries (hv.isWritable hdata) he
    refine (faults_asText fun hdata => (hw hdata).1).bind fun name _ => ?_
    refine (faults_asText fun hdata => (hw hdata).2).bind fun word _ => ?_
    dsimp only
    split
    · exact .ok _
    · exact .error (.inl rfl)

/-- The reader of specs tells of the shape of the data, or of a number in it, if the names in the
schemes of targets are lists. -/
theorem faults_read (hnames : ∀ w, data.Holds .schemeNames w → Part.schemeNames.Admits w)
    (basePath : Path) (defaultName : String) :
    Faults (FoundIn data) (read basePath defaultName data) := by
  unfold read
  refine (faults_expectMap "spec" data).bind fun entries hentries => ?_
  obtain rfl := eq_map_of_expectMap hentries
  have hoffers : ∀ {key q}, Part.spec.Field key q →
      (Value.map entries).Offers q (field entries key) :=
    fun hfield => Offers.field (.inr (.root _)) (mapOrAbsent_map "spec" entries) hfield
  have hname : Faults (FoundIn (.map entries))
      (if (field entries "name").isBlank then pure defaultName
        else (field entries "name").asText) := by
    split
    · exact .ok _
    · exact faults_asText fun hdata => isWritable_field hdata "name"
  refine Faults.bind_ite hname fun name => ?_
  refine (faults_configurations (hoffers .configs)).bind fun configs _ => ?_
  have hgroups : Faults (FoundIn (.map entries)) (readSettingGroups entries) := by
    have hheld := offers_settingGroupsField entries
    rw [readSettingGroups_eq]
    refine (faults_configs hheld (fun inside e hinside he place => ?_) _).map _
    have hgroup := hheld.entry (hinside ▸ mapOrAbsent_map place inside) .group he
    exact faults_settings (.inr rfl) (.inr hgroup) place
  refine hgroups.bind fun groups _ => ?_
  refine (faults_settings (.inl rfl) (hoffers .settings) _).bind fun settings _ => ?_
  have htargets : Faults (FoundIn (.map entries)) (readTargets (field entries "targets")) := by
    refine (faults_mapOrAbsent _ _).bind fun inside hinside => ?_
    have hw := fun hdata =>
      isWritable_of_mapOrAbsent hinside ((hoffers .targets).isWritable hdata)
    exact faults_named hw fun e he name =>
      faults_target hnames (.inr ((hoffers .targets).entry hinside .target he)) name
  refine htargets.bind fun targets _ => ?_
  have hschemes : Faults (FoundIn (.map entries)) (readSchemes (field entries "schemes")) := by
    refine (faults_mapOrAbsent _ _).bind fun inside hinside => ?_
    have hw := fun hdata =>
      isWritable_of_mapOrAbsent hinside ((hoffers .schemes).isWritable hdata)
    exact faults_named hw fun e he name =>
      faults_scheme (.inr ((hoffers .schemes).entry hinside .scheme he)) name
  refine hschemes.bind fun schemes _ => ?_
  refine (faults_listOrAbsent _ _).bind fun items hitems => ?_
  refine (faults_names (hoffers .fileGroups) hitems).bind fun fileGroups _ => ?_
  refine (faults_configFiles (hoffers .configFiles) _).bind fun configFiles _ => ?_
  exact (faults_mapOrAbsent _ _).bind fun options _ => .ok _

/-- The names in the schemes of targets stand under two keys of the scheme. -/
theorem fields_of_holds_schemeNames {w : Value} (h : data.Holds .schemeNames w) :
    ∃ spec targets name target scheme, data = .map spec ∧
      field? spec "targets" = some (.map targets) ∧ (name, .map target) ∈ targets ∧
      field? target "scheme" = some (.map scheme) ∧
      (field? scheme "configVariants" = some w ∨ field? scheme "testTargets" = some w) := by
  have hput : ∀ {before after : Entries} {key : String} {v : Value},
      hasField before key = false → field? (before ++ (text key, v) :: after) key = some v :=
    fun hnew => by rw [field?_put hnew, if_pos rfl]
  have hscheme : ∃ scheme, data.Holds .targetScheme (.map scheme) ∧
      (field? scheme "configVariants" = some w ∨ field? scheme "testTargets" = some w) := by
    obtain ⟨put, hslot, rfl⟩ := h
    cases hslot with
    | field hp hfield hnew =>
        cases hfield with
        | configVariants => exact ⟨_, ⟨_, hp, rfl⟩, .inl (hput hnew)⟩
        | testTargets => exact ⟨_, ⟨_, hp, rfl⟩, .inr (hput hnew)⟩
    | entry hp hentry => cases hentry
    | item hp hitem => cases hitem
  obtain ⟨scheme, ⟨put, hslot, rfl⟩, hnames⟩ := hscheme
  cases hslot with
  | entry hp hentry => cases hentry
  | item hp hitem => cases hitem
  | field htarget hfield hnew =>
      cases hfield
      cases htarget with
      | field hp hfield hnew => cases hfield
      | item hp hitem => cases hitem
      | entry htargets hentry =>
          cases hentry
          cases htargets with
          | entry hp hentry => cases hentry
          | item hp hitem => cases hitem
          | field hspec hfield hnew' =>
              cases hfield
              cases hspec with
              | field hp hfield hnew => cases hfield
              | entry hp hentry => cases hentry
              | item hp hitem => cases hitem
              | spec =>
                  exact ⟨_, _, _, _, scheme, rfl, hput hnew',
                    List.mem_append_right _ List.mem_cons_self, hput hnew, hnames⟩

/-- **Values of another kind are refused.**  Where a part is expected, a value that is neither absent
nor of the part's kind is refused; and whatever is refused, a fault tells of the shape of the data,
or of a whole number in it that is too long.  The names in the schemes of targets are apart from
this: they are read out of values of any kind. -/
theorem other_kinds_are_refused (basePath : Path) (defaultName : String) (data : Value) :
    ((∀ w, data.Holds .schemeNames w → Part.schemeNames.Admits w) →
        ∀ fault, read basePath defaultName data = .error fault → fault.FoundIn data) ∧
      ∀ p v, p ≠ .schemeNames → data.Holds p v → ¬ p.Admits v →
        ∃ fault, read basePath defaultName data = .error fault := by
  refine ⟨fun hnames => faults_read hnames basePath defaultName, fun p v hp hv hnot => ?_⟩
  cases hread : read basePath defaultName data with
  | error fault => exact ⟨fault, rfl⟩
  | ok spec =>
      obtain ⟨put, hslot, rfl⟩ := hv
      exact absurd ((hslot.isRead ⟨basePath, defaultName, spec, hread⟩).admits hp) hnot

/-- A spec with targets of any kind. -/
def targetsSpec (targets : Value) : Value := .map [(text "targets", targets)]

theorem targetsSpec_holds (targets : Value) : (targetsSpec targets).Holds .targets targets :=
  (Holds.root _).field .targets rfl

/-- A list of targets is refused, and a fault tells of its shape. -/
theorem list_of_targets_is_refused :
    ∃ fault, read .here "Tools" (targetsSpec (.list [text "App"])) = .error fault ∧
      fault.FoundIn (targetsSpec (.list [text "App"])) := by
  have hnames : ∀ w, (targetsSpec (.list [text "App"])).Holds .schemeNames w →
      Part.schemeNames.Admits w := by
    intro w hw
    obtain ⟨spec, targets, -, -, -, hspec, htargets, -⟩ := fields_of_holds_schemeNames hw
    cases hspec
    cases htargets
  have hnot : ¬ Part.targets.Admits (.list [text "App"]) := by
    rintro (hblank | ⟨entries, hmap⟩)
    · cases hblank
    · cases hmap
  have hrefused := other_kinds_are_refused .here "Tools" (targetsSpec (.list [text "App"]))
  obtain ⟨fault, hfault⟩ := hrefused.2 .targets _ (by decide) (targetsSpec_holds _) hnot
  exact ⟨fault, hfault, hrefused.1 hnames fault hfault⟩

/-- Not every value of another kind is refused: an empty list counts as no targets. -/
theorem empty_list_counts_as_no_targets :
    ∃ spec, (targetsSpec (.list [])).Holds .targets (.list []) ∧
      ¬ Part.targets.Fits (.list []) ∧
      read .here "Tools" (targetsSpec (.list [])) = .ok spec ∧ spec.targets = [] := by
  refine ⟨_, targetsSpec_holds _, ?_, rfl, rfl⟩
  rintro ⟨entries, hmap⟩
  cases hmap

/-- A spec with a target whose scheme has variants of any kind. -/
def variantsSpec (variants : Value) : Value :=
  targetsSpec (.map [(text "App", .map [(text "scheme", .map [(text "configVariants", variants)])])])

/-- Nothing is expected of the variants in the scheme of a target but items: whatever has some is
read, a text as its characters, and of any other value all that is told is that it has none. -/
theorem variants_of_any_kind (basePath : Path) (defaultName : String) (v : Value) :
    (fun spec => spec.targets.map Target.scheme) <$> read basePath defaultName (variantsSpec v) =
      (fun names => [some ⟨names, []⟩]) <$> v.textsOrAbsent := by
  -- Reading the spec is reading the names, and then something that does not fail.
  change _ <$> ((((v.textsOrAbsent >>= _) >>= _) >>= _) >>= _) = _
  cases v.textsOrAbsent <;> rfl

example : read .here "Tools" (variantsSpec (.int 5)) = .error (.noItems "int") := rfl

/-- A group of files may be a value of any kind, unless there is a whole number in it that is too
long to be written. -/
theorem group_of_files_too_long (basePath : Path) (defaultName : String) {v : Value}
    (h : v.isWritable = false) :
    read basePath defaultName (.map [(text "fileGroups", .list [v])]) =
      .error (.tooLong .writing) := by
  have hlong : v.asText = .error (.tooLong .writing) := by
    rw [asText, writePlain, h]
    rfl
  change (v.asText >>= _) >>= _ = _
  rw [hlong]
  rfl

example : read .here "Tools" (.map [(text "fileGroups", .list [.int (Nat.pow 16 3572)])]) =
    .error (.tooLong .writing) :=
  group_of_files_too_long _ _ (by decide +kernel)

end ProjectSpec

end BuildSpec
