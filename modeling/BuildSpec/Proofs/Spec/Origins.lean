import BuildSpec.Proofs.Audit.References
import BuildSpec.Proofs.Spec.Parts
import BuildSpec.Proofs.Table

/-!
# Where the references of a spec come from

A defect is told with a pointer that is put together from the names in the spec, not taken from the
data.  A name is the text that is written for a key.  This file goes back from the spec to the data
from which it was read, and finds something at the end of each of these pointers:

* `Reference.way` — the way to the element that a reference is told of;
* `exists_of_mem_readNamed` — named parts are read from entries under their names;
* `isTold_of_mem_targetReferences`, `isTold_of_mem_schemeReferences` — the references of the parts;
* `isTold_of_mem_defects` — every defect is told of an element of the data;
* `has_of_mem_defects` — where all keys are texts, its pointer has the keys and positions;
* `distinctGroups_of_read` — the setting groups of a spec that has been read have distinct names.
-/

namespace BuildSpec

/-- The way to the element that a reference is told of.  The configuration of a config file is told
of the spec as a whole. -/
def Reference.way : Reference → List String
  | fileGroup _ => ["fileGroups"]
  | configFile none config _ => ["configFiles", config]
  | configFile (some target) config _ => ["targets", target, "configFiles", config]
  | configFileName _ => []
  | dependency target _ => ["targets", target, "dependencies"]
  | source target _ => ["targets", target, "sources"]
  | variant target _ _ => ["targets", target, "scheme", "configVariants"]
  | generated target _ => ["targets", target, "scheme"]
  | testTarget target _ => ["targets", target, "scheme", "testTargets"]
  | script target _ _ => ["targets", target]
  | buildTarget scheme target => ["schemes", scheme, "build", "targets", target]
  | action scheme _ => ["schemes", scheme]

theorem Reference.pointer_defect (base : Path) (r : Reference) :
    (r.defect base).pointer = Pointer.encode r.way := by
  cases r with
  | configFile target config path => cases target <;> rfl
  | _ => rfl

/-- Defects of settings are told of the spec as a whole. -/
theorem Defect.pointer_of_isAboutSettings {d : Defect} (h : d.isAboutSettings = true) :
    d.pointer = "" := by
  cases d with
  | invalidBuildSettingConfig config => rfl
  | invalidSettingsGroup group => rfl
  | _ => cases h

namespace Value

/-! ## Parts that may be absent -/

variable {v : Value} {entries : Entries} {place : String}

/-- A field that is not null is an element of the value that was taken for a mapping. -/
theorem at_of_field_ne_null (h : v.mapOrAbsent place = .ok entries) {key : String}
    (hfield : field entries key ≠ .null) : v.At [key] (field entries key) := by
  rcases field_eq_null_or_at entries key with hnull | hat
  · exact absurd hnull hfield
  · rcases eq_of_mapOrAbsent h with ⟨-, rfl⟩ | rfl
    · exact absurd rfl hfield
    · exact hat

theorem ne_null_of_textsOrAbsent {texts : List String} (h : v.textsOrAbsent = .ok texts)
    (htexts : texts ≠ []) : v ≠ .null := by
  rintro rfl
  exact htexts (Except.ok.inj h).symm

/-- Parts with names are read from entries under their names. -/
theorem exists_of_mem_readNamed {α : Type} {read : String → Value → Except ShapeFault α}
    (h : v.mapOrAbsent place = .ok entries) {parts : List α}
    (hparts : entries.mapM (fun (key, value) => do read (← key.asText) value) = .ok parts)
    {part : α} (hpart : part ∈ parts) :
    ∃ name value, v.Told [name] value ∧ read name value = .ok part := by
  obtain ⟨⟨key, value⟩, he, hread⟩ := exists_of_mem_mapM hparts hpart
  obtain ⟨name, hname, hread⟩ := bind_eq_ok_iff.mp hread
  obtain rfl := eq_map_of_mem h he
  rw [eq_plain_of_asText hname] at hread
  exact ⟨key.plain, value, .entry he .here, hread⟩

end Value

namespace ProjectSpec

open Value

variable {v : Value} {data : Entries} {place : String}

/-! ## The parts of targets -/

/-- A config file stands under the name of the configuration. -/
theorem isTold_of_mem_readConfigFiles {files : List (String × String)}
    (h : readConfigFiles place v = .ok files) {config path : String}
    (hmem : (config, path) ∈ files) : v.IsTold [config] := by
  obtain ⟨entries, hentries, h⟩ := bind_eq_ok_iff.mp h
  obtain ⟨written, hwritten, h⟩ := bind_eq_ok_iff.mp h
  cases h
  obtain ⟨⟨first, hfirst⟩, -⟩ := Table.mem_ofEntries hmem
  obtain ⟨⟨key, value⟩, he, hread⟩ := exists_of_mem_mapM hwritten hfirst
  obtain rfl := eq_map_of_mem hentries he
  obtain ⟨name, hname, hread⟩ := bind_eq_ok_iff.mp hread
  obtain ⟨content, -, hread⟩ := bind_eq_ok_iff.mp hread
  cases hread
  rw [eq_plain_of_asText hname]
  exact ⟨value, .entry he .here⟩

/-- Texts that are read from a field stand in that field. -/
theorem isTold_of_texts_ne_nil {entries : Entries} {key : String} {texts : List String}
    (h : (field entries key).textsOrAbsent = .ok texts) (htexts : texts ≠ []) :
    (Value.map entries).IsTold [key] := by
  rcases field_eq_null_or_at entries key with hnull | hat
  · exact absurd hnull (ne_null_of_textsOrAbsent h htexts)
  · exact ⟨_, hat.told⟩

/-- The texts in the scheme of a target stand in fields of it. -/
theorem isTold_of_readTargetScheme {s : TargetScheme}
    (h : readTargetScheme place v = .ok (some s)) :
    (s.configVariants ≠ [] → v.IsTold ["configVariants"]) ∧
      (s.testTargets ≠ [] → v.IsTold ["testTargets"]) := by
  cases v with
  | map entries =>
      obtain ⟨inside, hinside, h⟩ := bind_eq_ok_iff.mp h
      cases hinside
      obtain ⟨variants, hvariants, h⟩ := bind_eq_ok_iff.mp h
      obtain ⟨tests, htests, h⟩ := bind_eq_ok_iff.mp h
      cases h
      exact ⟨isTold_of_texts_ne_nil hvariants, isTold_of_texts_ne_nil htests⟩
  | _ => cases h

/-- The elements that the parts of a target were read from. -/
structure TargetParts (name : String) (v : Value) (t : Target) : Prop where
  name_eq : t.name = name
  dependencies : t.dependencies ≠ [] → v.IsTold ["dependencies"]
  sources : t.sources ≠ [] → v.IsTold ["sources"]
  configFile : ∀ config path, (config, path) ∈ t.configFiles → v.IsTold ["configFiles", config]
  scheme : ∀ s, t.scheme = some s → v.IsTold ["scheme"]
  configVariants : ∀ s, t.scheme = some s → s.configVariants ≠ [] →
    v.IsTold ["scheme", "configVariants"]
  testTargets : ∀ s, t.scheme = some s → s.testTargets ≠ [] → v.IsTold ["scheme", "testTargets"]

theorem targetParts_of_readTarget {name : String} {t : Target} (h : readTarget name v = .ok t) :
    TargetParts name v t := by
  obtain ⟨entries, hentries, hfields⟩ := fields_of_readTarget h
  have hschemeAt : ∀ s, t.scheme = some s → v.Told ["scheme"] (field entries "scheme") := by
    intro s hs
    refine (at_of_field_ne_null hentries fun hnull => ?_).told
    have hscheme := hfields.scheme
    rw [hnull, hs] at hscheme
    cases hscheme
  have hinside : ∀ s, t.scheme = some s →
      (s.configVariants ≠ [] → (field entries "scheme").IsTold ["configVariants"]) ∧
        (s.testTargets ≠ [] → (field entries "scheme").IsTold ["testTargets"]) :=
    fun s hs => isTold_of_readTargetScheme (hs ▸ hfields.scheme)
  constructor
  · exact hfields.name_eq
  · intro hsome
    refine ⟨_, (at_of_field_ne_null hentries fun hnull => hsome ?_).told⟩
    have hdependencies := hfields.dependencies
    rw [hnull] at hdependencies
    exact (Except.ok.inj hdependencies).symm
  · intro hsome
    refine ⟨_, (at_of_field_ne_null hentries fun hnull => hsome ?_).told⟩
    have hsources := hfields.sources
    rw [hnull] at hsources
    exact (Except.ok.inj hsources).symm
  · intro config path hmem
    have hfield : v.Told ["configFiles"] (field entries "configFiles") := by
      refine (at_of_field_ne_null hentries fun hnull => ?_).told
      have hconfigFiles := hfields.configFiles
      rw [hnull] at hconfigFiles
      rw [← Except.ok.inj hconfigFiles] at hmem
      cases hmem
    exact hfield.isTold (isTold_of_mem_readConfigFiles hfields.configFiles hmem)
  · exact fun s hs => ⟨_, hschemeAt s hs⟩
  · intro s hs hvariants
    exact (hschemeAt s hs).isTold ((hinside s hs).1 hvariants)
  · intro s hs htests
    exact (hschemeAt s hs).isTold ((hinside s hs).2 htests)

/-- The references of a target are told of elements below the target. -/
theorem isTold_of_mem_targetReferences {name : String} {t : Target} (h : TargetParts name v t)
    {r : Reference} (hr : r ∈ targetReferences t) :
    r.way = [] ∨ ∃ way, r.way = ["targets", name] ++ way ∧ v.IsTold way := by
  have hname := h.name_eq
  subst hname
  simp only [targetReferences, List.mem_append] at hr
  rcases hr with (((hr | hr) | hr) | (hr | hr)) | hr
  · obtain ⟨d, hd, rfl⟩ := List.mem_map.mp hr
    have hmem := (List.mem_filter.mp hd).1
    exact .inr ⟨["dependencies"], rfl,
      h.dependencies (List.ne_nil_of_mem hmem)⟩
  · obtain ⟨⟨config, path⟩, hmem, hr⟩ := List.mem_flatMap.mp hr
    rcases List.mem_pair.mp hr with rfl | rfl
    · exact .inr ⟨["configFiles", config], rfl, h.configFile config path hmem⟩
    · exact .inl rfl
  · obtain ⟨source, hmem, rfl⟩ := List.mem_map.mp hr
    exact .inr ⟨["sources"], rfl, h.sources (List.ne_nil_of_mem hmem)⟩
  · unfold variantReferences at hr
    cases hscheme : t.scheme with
    | none =>
        rw [hscheme] at hr
        cases hr
    | some s =>
        rw [hscheme] at hr
        dsimp only at hr
        split at hr
        · obtain ⟨kind, -, rfl⟩ := List.mem_map.mp hr
          exact .inr ⟨["scheme"], rfl, h.scheme s hscheme⟩
        · next hvariants =>
            obtain ⟨variant, -, hr⟩ := List.mem_flatMap.mp hr
            obtain ⟨kind, -, rfl⟩ := List.mem_map.mp hr
            exact .inr ⟨["scheme", "configVariants"], rfl,
              h.configVariants s hscheme hvariants⟩
  · unfold testReferences at hr
    cases hscheme : t.scheme with
    | none =>
        rw [hscheme] at hr
        cases hr
    | some s =>
        rw [hscheme] at hr
        obtain ⟨test, hmem, rfl⟩ := List.mem_map.mp hr
        exact .inr ⟨["scheme", "testTargets"], rfl,
          h.testTargets s hscheme (List.ne_nil_of_mem hmem)⟩
  · obtain ⟨script, -, hr⟩ := List.mem_filterMap.mp hr
    split at hr
    · cases hr
      exact .inr ⟨[], rfl, .root v⟩
    · cases hr

/-! ## The parts of schemes -/

/-- A target of a scheme is read under its name. -/
theorem target_of_readBuildTarget {name : String} {b : BuildTarget}
    (h : readBuildTarget place name v = .ok b) : b.target = name := by
  cases v with
  | text s =>
      cases h
      rfl
  | list items =>
      obtain ⟨types, -, h⟩ := bind_eq_ok_iff.mp h
      cases h
      rfl
  | _ => cases h

/-- The targets that a scheme builds stand in it under their names. -/
theorem isTold_of_mem_build {name : String} {s : Scheme} (h : readScheme name v = .ok s) :
    s.name = name ∧ ∀ b ∈ s.build, v.IsTold ["build", "targets", b.target] := by
  obtain ⟨entries, hentries, hfields⟩ := fields_of_readScheme h
  obtain ⟨build, inside, hbuild, hinside, htargets⟩ := hfields.build
  refine ⟨hfields.name_eq, fun b hb => ?_⟩
  have htargetsNe : field build "targets" ≠ .null := by
    intro hnull
    rw [hnull] at hinside
    cases hinside
    rw [← Except.ok.inj htargets] at hb
    cases hb
  have hbuildNe : field entries "build" ≠ .null := by
    intro hnull
    rw [hnull] at hbuild
    cases hbuild
    exact htargetsNe rfl
  have hbuildAt := at_of_field_ne_null hentries hbuildNe
  have htargetsAt := hbuildAt.append (at_of_field_ne_null hbuild htargetsNe)
  obtain ⟨target, value, htold, hread⟩ := exists_of_mem_readNamed hinside htargets hb
  rw [target_of_readBuildTarget hread]
  exact ⟨value, htargetsAt.told.append htold⟩

theorem isTold_of_mem_schemeReferences {name : String} {s : Scheme}
    (h : readScheme name v = .ok s) {r : Reference} (hr : r ∈ schemeReferences s) :
    ∃ way, r.way = ["schemes", name] ++ way ∧ v.IsTold way := by
  obtain ⟨hname, hbuild⟩ := isTold_of_mem_build h
  subst hname
  rcases List.mem_append.mp hr with hr | hr
  · obtain ⟨b, hb, rfl⟩ := List.mem_map.mp hr
    exact ⟨["build", "targets", b.target], rfl, hbuild b hb⟩
  · obtain ⟨a, -, rfl⟩ := List.mem_map.mp hr
    exact ⟨[], rfl, .root v⟩

/-! ## The spec as a whole -/

/-- The parts of a section are read from entries under their names. -/
theorem exists_of_mem_readSection {α : Type} {read : String → Value → Except ShapeFault α}
    {key : String} {parts : List α}
    (h : (field data key).mapOrAbsent place >>=
      List.mapM (fun (key, value) => do read (← key.asText) value) = .ok parts) {part : α}
    (hpart : part ∈ parts) :
    ∃ name value, (Value.map data).Told [key, name] value ∧ read name value = .ok part := by
  obtain ⟨entries, hentries, hparts⟩ := bind_eq_ok_iff.mp h
  rcases field_eq_null_or_at data key with hnull | hat
  · rw [hnull] at hentries
    cases hentries
    cases hparts
    cases hpart
  · obtain ⟨name, value, htold, hread⟩ := exists_of_mem_readNamed hentries hparts hpart
    exact ⟨name, value, hat.told.append htold, hread⟩

/-- Every reference of a spec is told of an element of the data. -/
theorem isTold_of_mem_references {basePath : Path} {defaultName : String} {spec : ProjectSpec}
    (h : read basePath defaultName (.map data) = .ok spec) {r : Reference}
    (hr : r ∈ spec.auditedReferences) : (Value.map data).IsTold r.way := by
  have hfields := fields_of_read h
  simp only [auditedReferences, List.mem_append] at hr
  rcases hr with ((hr | hr) | hr) | hr
  · obtain ⟨group, hmem, rfl⟩ := List.mem_map.mp hr
    rcases field_eq_null_or_at data "fileGroups" with hnull | hat
    · have hfileGroups := hfields.fileGroups
      rw [hnull] at hfileGroups
      rw [← Except.ok.inj hfileGroups] at hmem
      cases hmem
    · exact ⟨_, hat.told⟩
  · obtain ⟨⟨config, path⟩, hmem, hr⟩ := List.mem_flatMap.mp hr
    rcases List.mem_pair.mp hr with rfl | rfl
    · rcases field_eq_null_or_at data "configFiles" with hnull | hat
      · have hconfigFiles := hfields.configFiles
        rw [hnull] at hconfigFiles
        rw [← Except.ok.inj hconfigFiles] at hmem
        cases hmem
      · exact hat.told.isTold (isTold_of_mem_readConfigFiles hfields.configFiles hmem)
    · exact .root _
  · obtain ⟨t, ht, hr⟩ := List.mem_flatMap.mp hr
    obtain ⟨name, value, htold, hread⟩ := exists_of_mem_readSection hfields.targets ht
    rcases isTold_of_mem_targetReferences (targetParts_of_readTarget hread) hr with
      hway | ⟨way, hway, hinside⟩
    · rw [hway]
      exact .root _
    · rw [hway]
      exact htold.isTold hinside
  · obtain ⟨s, hs, hr⟩ := List.mem_flatMap.mp hr
    obtain ⟨name, value, htold, hread⟩ := exists_of_mem_readSection hfields.schemes hs
    obtain ⟨way, hway, hinside⟩ := isTold_of_mem_schemeReferences hread hr
    rw [hway]
    exact htold.isTold hinside

/-- **Every defect of a spec is told of an element of the data.** -/
theorem isTold_of_mem_defects {basePath : Path} {defaultName : String} {spec : ProjectSpec}
    (h : read basePath defaultName (.map data) = .ok spec) {pathExists : String → Bool} {d : Defect}
    (hd : d ∈ spec.defects pathExists) :
    ∃ way, d.pointer = Pointer.encode way ∧ (Value.map data).IsTold way := by
  cases habout : d.isAboutSettings with
  | true => exact ⟨[], Defect.pointer_of_isAboutSettings habout, .root _⟩
  | false =>
      have hother : d ∈ (spec.defects pathExists).filter fun d => !d.isAboutSettings :=
        List.mem_filter.mpr ⟨hd, by rw [habout]; rfl⟩
      have hunresolved : d ∈ spec.unresolved (fun _ => pathExists) spec.auditedReferences :=
        filter_defects_eq spec (fun _ => pathExists) ▸ hother
      obtain ⟨r, hr, rfl⟩ := List.mem_map.mp hunresolved
      exact ⟨r.way, r.pointer_defect spec.basePath,
        isTold_of_mem_references h (List.mem_filter.mp hr).1⟩

/-- Where all keys are texts, the pointer of a defect has the keys and positions on the way to an
element. -/
theorem has_of_mem_defects {basePath : Path} {defaultName : String} {spec : ProjectSpec}
    (h : read basePath defaultName (.map data) = .ok spec) (hdata : (Value.map data).TextKeyed)
    {pathExists : String → Bool} {d : Defect} (hd : d ∈ spec.defects pathExists) :
    ∃ way, d.pointer = Pointer.encode way ∧ (Value.map data).Has way := by
  obtain ⟨way, hway, htold⟩ := isTold_of_mem_defects h hd
  exact ⟨way, hway, htold.has hdata⟩

/-! ## Names of groups -/

/-- The setting groups of a spec that has been read have distinct names. -/
theorem distinctGroups_of_read {basePath : Path} {defaultName : String} {spec : ProjectSpec}
    (h : read basePath defaultName (.map data) = .ok spec) : spec.DistinctGroups := by
  obtain ⟨groups, -, hgroups⟩ := map_eq_ok_iff.mp (fields_of_read h).settingGroups
  rw [DistinctGroups, ← hgroups]
  exact Table.nodup_keys_ofEntries groups

end ProjectSpec

end BuildSpec
