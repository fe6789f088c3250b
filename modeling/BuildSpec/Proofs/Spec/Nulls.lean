import BuildSpec.Proofs.Spec.Parts

/-!
# Fields that are null

A field with nothing behind it is null, and counts as absent.  This file says for which fields
this is so, wherever in the data of a spec they stand:

* `Part.optionalKeys` — the keys that a part may have with nothing behind them;
* `Part.Same` — two values of which the reader makes the same part;
* `Slot.same` — where one is put in place of the other, the spec stays the same.
-/

namespace BuildSpec

open Value

namespace Part

/-- The keys that a part may have with nothing behind them. -/
def optionalKeys : Part → List String
  | .spec =>
    ["name", "configs", "settings", "settingGroups", "settingPresets", "targets", "schemes",
      "fileGroups", "configFiles", "options"]
  | .options => ["minimumVersion"]
  | .settings | .group => ProjectSpec.settingsKeys
  | .target =>
    ["sources", "dependencies", "configFiles", "scheme", "prebuildScripts", "postbuildScripts",
      "settings"]
  | .targetScheme => ["configVariants", "testTargets"]
  | .script => ["name"]
  | .scheme => "build" :: SchemeAction.all.map SchemeAction.text
  | .build => ["targets"]
  | _ => []

/-- The reader makes the same part of two values.  Of a part that holds no other one, the values
must be the same. -/
def Same : Part → Value → Value → Prop
  | .spec, v, w =>
    ∀ basePath name, ProjectSpec.read basePath name v = ProjectSpec.read basePath name w
  | .options, v, w => ∀ place,
    (Value.field · "minimumVersion") <$> v.mapOrAbsent place =
      (Value.field · "minimumVersion") <$> w.mapOrAbsent place
  | .settings, v, w => ∀ place, ProjectSpec.readSettings place v = ProjectSpec.readSettings place w
  | .settingsTable, v, w => (v = .null ↔ w = .null) ∧
    ∀ place, ProjectSpec.readConfigs place v = ProjectSpec.readConfigs place w
  | .group, v, w => ∀ place, ProjectSpec.readGroup place v = ProjectSpec.readGroup place w
  | .targets, v, w => ProjectSpec.readTargets v = ProjectSpec.readTargets w
  | .target, v, w => ∀ name, ProjectSpec.readTarget name v = ProjectSpec.readTarget name w
  | .scripts, v, w => ∀ place, ProjectSpec.readScripts place v = ProjectSpec.readScripts place w
  | .script, v, w => ∀ place, ProjectSpec.readScript place v = ProjectSpec.readScript place w
  | .targetScheme, v, w => ∀ place,
    ProjectSpec.readTargetScheme place v = ProjectSpec.readTargetScheme place w
  | .schemes, v, w => ProjectSpec.readSchemes v = ProjectSpec.readSchemes w
  | .scheme, v, w => ∀ name, ProjectSpec.readScheme name v = ProjectSpec.readScheme name w
  | .build, v, w => ∀ place inner,
    (fun build => (Value.field build "targets").mapOrAbsent inner) <$> v.mapOrAbsent place =
      (fun build => (Value.field build "targets").mapOrAbsent inner) <$> w.mapOrAbsent place
  | _, v, w => v = w

end Part

namespace ProjectSpec

/-! ## Readers that look at fields -/

section Congruence

variable {entries entries' : Entries}

theorem readSettings_congr {place : String}
    (hstructured : settingsKeys.any (hasField entries) = true)
    (hstructured' : settingsKeys.any (hasField entries') = true)
    (hgroups : Value.field entries "groups" = Value.field entries' "groups")
    (hbase : Value.field entries "base" = Value.field entries' "base")
    (hconfigs : ∀ place, readConfigs place (Value.field entries "configs") =
      readConfigs place (Value.field entries' "configs")) :
    readSettings place (.map entries) = readSettings place (.map entries') := by
  rw [readSettings, readSettings]
  simp only [hstructured, hstructured', hgroups, hbase, readConfigsIn_eq_field, hconfigs,
    Bool.not_true, Bool.false_eq_true, if_false]

theorem readScript_congr {place : String}
    (hpath : field? entries "path" = field? entries' "path")
    (hscript : field? entries "script" = field? entries' "script")
    (hname : Value.field entries "name" = Value.field entries' "name") :
    readScript place (.map entries) = readScript place (.map entries') := by
  simp only [readScript, expectMap, ok_bind, hpath, hscript, hname]

theorem readTargetScheme_congr {place : String}
    (h : ∀ key, Value.field entries key = Value.field entries' key) :
    readTargetScheme place (.map entries) = readTargetScheme place (.map entries') := by
  simp only [readTargetScheme, expectMap, ok_bind, h]

theorem readTarget_congr {name : String}
    (htype : ((field? entries "type").getD (.text "")).asText =
      ((field? entries' "type").getD (.text "")).asText)
    (hplatform : ((field? entries "platform").getD (.text "")).asText =
      ((field? entries' "platform").getD (.text "")).asText)
    (hscheme : ∀ place, readTargetScheme place (Value.field entries "scheme") =
      readTargetScheme place (Value.field entries' "scheme"))
    (hsources : Value.field entries "sources" = Value.field entries' "sources")
    (hdependencies : Value.field entries "dependencies" = Value.field entries' "dependencies")
    (hconfigFiles : Value.field entries "configFiles" = Value.field entries' "configFiles")
    (hprebuild : ∀ place, readScripts place (Value.field entries "prebuildScripts") =
      readScripts place (Value.field entries' "prebuildScripts"))
    (hpostbuild : ∀ place, readScripts place (Value.field entries "postbuildScripts") =
      readScripts place (Value.field entries' "postbuildScripts"))
    (hsettings : ∀ place, readSettings place (Value.field entries "settings") =
      readSettings place (Value.field entries' "settings")) :
    readTarget name (.map entries) = readTarget name (.map entries') := by
  simp only [readTarget, mapOrAbsent_map, ok_bind, htype, hplatform, hscheme, hsources, hdependencies,
    hconfigFiles, hprebuild, hpostbuild, hsettings]

theorem readScheme_congr {name : String}
    (hbuild : ∀ place inner,
      (fun build => (Value.field build "targets").mapOrAbsent inner) <$>
          (Value.field entries "build").mapOrAbsent place =
        (fun build => (Value.field build "targets").mapOrAbsent inner) <$>
          (Value.field entries' "build").mapOrAbsent place)
    (hactions : ∀ a : SchemeAction, Value.field entries a.text = Value.field entries' a.text) :
    readScheme name (.map entries) = readScheme name (.map entries') := by
  -- of what is built only the targets are looked at, after the actions have been read
  simp only [readScheme, mapOrAbsent_map, ok_bind, hactions]
  refine bind_congr_of_map (hbuild _ ("schemes." ++ name ++ ".build.targets")) ?_
  intro build build' hsame
  simp only [hsame]

theorem read_congr {basePath : Path} {name : String}
    (hsame : ∀ key ∈ ["name", "configs", "fileGroups", "configFiles"],
      Value.field entries key = Value.field entries' key)
    (hgroups : ∀ place, readConfigs place (settingGroupsField entries) =
      readConfigs place (settingGroupsField entries'))
    (hsettings : ∀ place, readSettings place (Value.field entries "settings") =
      readSettings place (Value.field entries' "settings"))
    (htargets : readTargets (Value.field entries "targets") =
      readTargets (Value.field entries' "targets"))
    (hschemes : readSchemes (Value.field entries "schemes") =
      readSchemes (Value.field entries' "schemes"))
    (hoptions : ∀ place,
      (Value.field · "minimumVersion") <$> (Value.field entries "options").mapOrAbsent place =
        (Value.field · "minimumVersion") <$> (Value.field entries' "options").mapOrAbsent place) :
    read basePath name (.map entries) = read basePath name (.map entries') := by
  simp only [List.forall_mem_cons] at hsame
  obtain ⟨hname, hconfigs, hfileGroups, hconfigFiles, -⟩ := hsame
  simp only [read, expectMap, ok_bind, readSettingGroups_eq, hname, hconfigs, hgroups, hsettings,
    htargets, hschemes, hfileGroups, hconfigFiles]
  split <;>
    · iterate 9 refine bind_congr fun _ => ?_
      refine bind_congr_of_map (hoptions _) fun options options' hversion => ?_
      simp only [hversion]

end Congruence

end ProjectSpec

/-! ## Slots -/

namespace Part

open ProjectSpec

variable {p q : Part} {v w : Value}

theorem Same.refl (p : Part) (v : Value) : p.Same v v := by
  cases p <;> simp [Same]

/-- Settings with one of the keys for structure stay the same with the same settings for
configurations. -/
theorem same_settings_of_configs {before after : Entries}
    (hnew : hasField before "configs" = false)
    (h : ∀ place, readConfigs place v = readConfigs place w) (place : String) :
    readSettings place (.map (before ++ (text "configs", v) :: after)) =
      readSettings place (.map (before ++ (text "configs", w) :: after)) := by
  apply readSettings_congr
  · simp [settingsKeys, hasField, field?_put hnew]
  · simp [settingsKeys, hasField, field?_put hnew]
  · simp [field_put hnew]
  · simp [field_put hnew]
  · simpa only [field_put_self hnew] using h

/-- A mapping with an entry is not blank. -/
theorem readGroup_map {entries : Entries} (hne : entries ≠ []) (place : String) :
    readGroup place (.map entries) = readSettings place (.map entries) := by
  simp [readGroup, isBlank, hne]

/-- A part is the same with the same part under a key. -/
theorem Same.field {key : String} {before after : Entries} (h : q.Same v w)
    (hfield : p.Field key q) (hnew : hasField before key = false) :
    p.Same (.map (before ++ (text key, v) :: after)) (.map (before ++ (text key, w) :: after)) := by
  cases hfield with
  | options | settings | targets | schemes =>
      intro basePath name
      apply read_congr <;> simp [settingGroupsField, field_put hnew]
      exact h
  | settingGroups =>
      intro basePath name
      obtain ⟨hnull, hread⟩ := h
      apply read_congr <;> simp [settingGroupsField, field_put hnew]
      intro place
      by_cases hv : v = .null
      · rw [hv, hnull.mp hv]
      · have hw : w ≠ .null := fun hw => hv (hnull.mpr hw)
        simp [hread]
  | targetScheme | prebuildScripts | postbuildScripts | targetSettings =>
      intro name
      apply readTarget_congr <;> simp [field_put hnew, field?_put hnew]
      exact h
  | settingsConfigs hp =>
      rcases hp with rfl | rfl
      · exact same_settings_of_configs hnew h.2
      · intro place
        rw [readGroup_map (by simp), readGroup_map (by simp)]
        exact same_settings_of_configs hnew h.2 place
  | build =>
      intro name
      apply readScheme_congr
      · intro place inner
        rw [field_put_self hnew, field_put_self hnew]
        exact h place inner
      · intro a
        cases a <;> simp [field_put hnew, SchemeAction.text]
  | _ =>
      obtain rfl : v = w := h
      exact Same.refl _ _

/-- A part is the same with the same part as one of its values. -/
theorem Same.entry {key : Value} {before after : Entries} (h : q.Same v w) (hentry : p.Entry q) :
    p.Same (.map (before ++ (key, v) :: after)) (.map (before ++ (key, w) :: after)) := by
  cases hentry with
  | group =>
      refine ⟨by simp, fun place => ?_⟩
      have hnamed : readNamedGroup place (key, v) = readNamedGroup place (key, w) := by
        simp only [readNamedGroup, h _]
      simp only [readConfigs_eq, mapOrAbsent_map, ok_bind, List.mapM_append, List.mapM_cons, hnamed]
  | target =>
      simp only [Same, readTargets, mapOrAbsent_map, ok_bind, List.mapM_append, List.mapM_cons, h _]
  | scheme =>
      simp only [Same, readSchemes, mapOrAbsent_map, ok_bind, List.mapM_append, List.mapM_cons, h _]

/-- A part is the same with the same part as one of its items. -/
theorem Same.item {before after : List Value} (h : q.Same v w) (hitem : p.Item q) :
    p.Same (.list (before ++ v :: after)) (.list (before ++ w :: after)) := by
  cases hitem with
  | dependency =>
      obtain rfl : v = w := h
      exact Same.refl _ _
  | script =>
      intro place
      simp only [readScripts, listOrAbsent_list, ok_bind, List.mapM_append, List.mapM_cons, h _]

/-! ## Keys with nothing behind them -/

section Null

variable {before after : Entries} {key : String} (habsent : hasField (before ++ after) key = false)

include habsent

theorem hasField_before : hasField before key = false := by
  rw [hasField_eq_false_iff, field?_append, Option.or_eq_none_iff] at habsent
  exact hasField_eq_false_iff.mpr habsent.1

theorem field_null (other : String) :
    Value.field (before ++ (text key, .null) :: after) other =
      Value.field (before ++ after) other := by
  rw [field_put (hasField_before habsent)]
  split
  · next heq =>
      rw [← heq, Value.field, hasField_eq_false_iff.mp habsent]
      rfl
  · rfl

theorem field?_put_of_ne {other : String} (hne : key ≠ other) (v : Value) :
    field? (before ++ (text key, v) :: after) other = field? (before ++ after) other := by
  rw [field?_put (hasField_before habsent), if_neg hne]

theorem same_settings_null (hstructured : settingsKeys.any (hasField (before ++ after)) = true)
    (place : String) :
    readSettings place (.map (before ++ (text key, .null) :: after)) =
      readSettings place (.map (before ++ after)) := by
  apply readSettings_congr
  · obtain ⟨other, hmem, hother⟩ := List.any_eq_true.mp hstructured
    have hne : key ≠ other := by
      rintro rfl
      rw [habsent] at hother
      cases hother
    refine List.any_eq_true.mpr ⟨other, hmem, ?_⟩
    rwa [hasField, field?_put_of_ne habsent hne]
  · exact hstructured
  · exact field_null habsent _
  · exact field_null habsent _
  · intro place
    rw [field_null habsent]

/-- **A part is the same with a null under one of its optional keys.**  Settings must have another
of the keys for structure. -/
theorem same_null {p : Part} (hkey : key ∈ p.optionalKeys)
    (hstructured : p = .settings ∨ p = .group →
      settingsKeys.any (hasField (before ++ after)) = true) :
    p.Same (.map (before ++ (text key, .null) :: after)) (.map (before ++ after)) := by
  cases p with
  | spec =>
      intro basePath name
      apply read_congr <;> simp [settingGroupsField, field_null habsent]
  | options =>
      intro place
      simp only [mapOrAbsent_map]
      exact congrArg Except.ok (field_null habsent _)
  | build =>
      intro place inner
      simp only [mapOrAbsent_map]
      exact congrArg (fun targets => Except.ok (targets.mapOrAbsent inner)) (field_null habsent _)
  | settings => exact same_settings_null habsent (hstructured (.inl rfl))
  | group =>
      intro place
      have hsome := hstructured (.inr rfl)
      have hne : before ++ after ≠ [] := by
        intro hnil
        rw [hnil] at hsome
        cases hsome
      rw [readGroup_map (by simp), readGroup_map hne]
      exact same_settings_null habsent hsome place
  | target =>
      intro name
      have htype : key ≠ "type" := by
        rintro rfl
        revert hkey
        decide
      have hplatform : key ≠ "platform" := by
        rintro rfl
        revert hkey
        decide
      apply readTarget_congr <;>
        simp only [field_null habsent, field?_put_of_ne habsent htype,
          field?_put_of_ne habsent hplatform, implies_true]
  | targetScheme =>
      intro place
      exact readTargetScheme_congr (field_null habsent)
  | script =>
      obtain rfl : key = "name" := List.mem_singleton.mp hkey
      intro place
      exact readScript_congr (field?_put_of_ne habsent (by decide) _)
        (field?_put_of_ne habsent (by decide) _) (field_null habsent _)
  | scheme =>
      intro name
      apply readScheme_congr <;> simp [field_null habsent]
  | _ => cases hkey

/-- A target without a word for its type or platform is one with an empty word. -/
theorem same_target_empty (hkey : key = "type" ∨ key = "platform") :
    Same .target (.map (before ++ after)) (.map (before ++ (text key, text "") :: after)) := by
  intro name
  have hnew := hasField_before habsent
  have hnone := hasField_eq_false_iff.mp habsent
  rcases hkey with rfl | rfl <;>
    apply readTarget_congr <;> simp [field_put hnew, field?_put hnew, hnone]

end Null

/-- Words for the type or the platform of a target that are written in the same way are the
same. -/
theorem same_target_kind {before after : Entries} {key : String}
    (hnew : hasField before key = false) (hkey : key = "type" ∨ key = "platform")
    (h : v.asText = w.asText) :
    Same .target (.map (before ++ (text key, v) :: after))
      (.map (before ++ (text key, w) :: after)) := by
  intro name
  rcases hkey with rfl | rfl <;>
    apply readTarget_congr <;> simp [field_put hnew, field?_put hnew, h]

/-- Nothing in the place of an empty target, scheme or group. -/
theorem same_null_of_empty {p : Part} (hp : p = .target ∨ p = .scheme ∨ p = .group) :
    p.Same .null (.map []) := by
  rcases hp with rfl | rfl | rfl
  · exact fun name => rfl
  · exact fun name => rfl
  · exact fun place => rfl

end Part

open ProjectSpec

/-- **A spec stays the same with the same part in a slot.** -/
theorem Slot.same {p : Part} {put : Value → Value} (hp : Slot p put) {v w : Value}
    (h : p.Same v w) : Part.spec.Same (put v) (put w) := by
  induction hp generalizing v w with
  | spec => exact h
  | presets hnew hnone =>
      intro basePath name
      apply read_congr <;> simp [settingGroupsField, field_put hnew, hnone]
      exact h.2
  | field _ hfield hnew ih => exact ih (h.field hfield hnew)
  | entry _ hentry ih => exact ih (h.entry hentry)
  | item _ hitem ih => exact ih (h.item hitem)

/-- **A field that is null counts as absent, but for the type and the platform of a target.**
Wherever a part of a spec stands, a null under one of its optional keys changes nothing, and a null
in the place of an empty target, scheme or group of settings does not either; setting groups under
their older name count for nothing beside those under the newer one.  The type and the platform of a
target are empty if they are absent, and the word `None` if they are null. -/
theorem null_counts_as_absent (basePath : Path) (defaultName : String) :
    (∀ p put, Slot p put → ∀ before after key, key ∈ p.optionalKeys →
      hasField (before ++ after) key = false →
      (p = .settings ∨ p = .group → settingsKeys.any (hasField (before ++ after)) = true) →
      ProjectSpec.read basePath defaultName (put (.map (before ++ (text key, .null) :: after))) =
        ProjectSpec.read basePath defaultName (put (.map (before ++ after)))) ∧
    (∀ p put, Slot p put → p = .target ∨ p = .scheme ∨ p = .group →
      ProjectSpec.read basePath defaultName (put .null) =
        ProjectSpec.read basePath defaultName (put (.map []))) ∧
    (∀ before after v w, hasField before "settingPresets" = false →
      Value.field (before ++ after) "settingGroups" ≠ .null →
      ProjectSpec.read basePath defaultName
          (.map (before ++ (text "settingPresets", v) :: after)) =
        ProjectSpec.read basePath defaultName
          (.map (before ++ (text "settingPresets", w) :: after))) ∧
    (∀ put, Slot .target put → ∀ before after key, key = "type" ∨ key = "platform" →
      hasField (before ++ after) key = false →
      ProjectSpec.read basePath defaultName (put (.map (before ++ after))) =
        ProjectSpec.read basePath defaultName
          (put (.map (before ++ (text key, text "") :: after))) ∧
      ProjectSpec.read basePath defaultName (put (.map (before ++ (text key, .null) :: after))) =
        ProjectSpec.read basePath defaultName
          (put (.map (before ++ (text key, text "None") :: after)))) := by
  refine ⟨?_, ?_, ?_, ?_⟩
  · intro p put hp before after key hkey habsent hstructured
    exact hp.same (Part.same_null habsent hkey hstructured) basePath defaultName
  · intro p put hp hempty
    exact hp.same (Part.same_null_of_empty hempty) basePath defaultName
  · intro before after v w hnew hgroups
    have hread : settingGroupsField (before ++ (text "settingPresets", v) :: after) =
        settingGroupsField (before ++ (text "settingPresets", w) :: after) := by
      simp only [settingGroupsField, field_put hnew]
      cases h : Value.field (before ++ after) "settingGroups" with
      | null => exact absurd h hgroups
      | _ => rfl
    apply read_congr <;> simp [field_put hnew, hread]
  · intro put hp before after key hkey habsent
    have hnew := Part.hasField_before habsent
    have hword : Value.null.asText = (text "None").asText := rfl
    exact ⟨hp.same (Part.same_target_empty habsent hkey) basePath defaultName,
      hp.same (Part.same_target_kind hnew hkey hword) basePath defaultName⟩

/-- A spec with a target that has one script. -/
def scriptSpec (script : Value) : Value :=
  .map [(text "targets", .map [(text "App", .map [(text "prebuildScripts", .list [script])])])]

theorem slot_scriptSpec : Slot .script scriptSpec := by
  have htargets : Slot .targets fun v => .map ([] ++ (text "targets", v) :: []) :=
    .field .spec .targets rfl
  have htarget : Slot .target fun v => .map [(text "targets", .map ([] ++ (text "App", v) :: []))] :=
    .entry htargets .target
  have hscripts : Slot .scripts fun v => .map [(text "targets", .map [(text "App",
      .map ([] ++ (text "prebuildScripts", v) :: []))])] :=
    .field htarget .prebuildScripts rfl
  have hscript : Slot .script fun v => .map [(text "targets", .map [(text "App",
      .map [(text "prebuildScripts", .list ([] ++ v :: []))])])] :=
    .item hscripts .script
  exact hscript

/-- A script with a null as its name has no name. -/
theorem null_name_is_no_name :
    Slot .script scriptSpec ∧ "name" ∈ Part.script.optionalKeys ∧
      hasField ([(text "path", text "a.sh")] ++ []) "name" = false ∧
      ProjectSpec.read .here "Tools"
          (scriptSpec (.map [(text "path", text "a.sh"), (text "name", .null)])) =
        ProjectSpec.read .here "Tools" (scriptSpec (.map [(text "path", text "a.sh")])) ∧
      (ProjectSpec.read .here "Tools" (scriptSpec (.map [(text "path", text "a.sh")]))).map
        (fun spec => spec.targets.map Target.prebuildScripts) =
          .ok [[⟨.path "a.sh", none⟩]] := by
  refine ⟨slot_scriptSpec, by decide, rfl, ?_, rfl⟩
  exact (null_counts_as_absent .here "Tools").1 .script scriptSpec slot_scriptSpec
    [(text "path", text "a.sh")] [] "name" (by decide) rfl (by simp)

/-- A spec with one target. -/
def targetSpec (target : Value) : Value := .map [(text "targets", .map [(text "App", target)])]

/-- The type of a target is a word if it is null, and empty if it is absent; so the null does not
count as absent. -/
theorem null_type_is_a_word :
    (ProjectSpec.read .here "Tools" (targetSpec (.map [(text "type", .null)]))).map
        (fun spec => spec.targets.map Target.type) = .ok ["None"] ∧
      (ProjectSpec.read .here "Tools" (targetSpec (.map []))).map
        (fun spec => spec.targets.map Target.type) = .ok [""] ∧
      ProjectSpec.read .here "Tools" (targetSpec (.map [(text "type", .null)])) ≠
        ProjectSpec.read .here "Tools" (targetSpec (.map [])) := by
  refine ⟨rfl, rfl, fun hsame => ?_⟩
  have htypes : (Except.ok ["None"] : Except ShapeFault (List String)) = .ok [""] :=
    congrArg (fun r => r.map fun spec => spec.targets.map Target.type) hsame
  exact absurd (Except.ok.inj htypes) (by decide)

end BuildSpec
