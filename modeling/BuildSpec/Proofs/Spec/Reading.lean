import BuildSpec.Proofs.Schema.SpecShape
import BuildSpec.Spec.Read

/-!
# Reading well-shaped data

The schema and the reader of specs describe the same data independently of each other.  This file
shows that the reader never stumbles over data that has the shape of a spec.  One thing alone can
still go wrong: a key or a reference may be a whole number of too many digits, which is not written
out.

* `Reads` — a reader succeeds, or meets such a number;
* `reads_settings`, `reads_target`, `reads_scheme` — the readers of the parts;
* `reads_spec` — the reader of the whole.
-/

namespace BuildSpec

/-- A reader succeeds, unless the data does not fulfil the condition that all its numbers can be
written, in which case it may come upon a number of too many digits. -/
def Reads {α : Type} (writable : Prop) (e : Except ShapeFault α) : Prop :=
  (∃ a, e = .ok a) ∨ (¬ writable ∧ ∃ fault, e = .error (.tooLong fault))

namespace Reads

variable {writable : Prop} {α β : Type}

theorem of_ok {e : Except ShapeFault α} {a : α} (h : e = .ok a) : Reads writable e :=
  Or.inl ⟨a, h⟩

theorem pure (a : α) : Reads writable (Pure.pure a : Except ShapeFault α) := of_ok rfl

/-- Readers one after another. -/
theorem bind {e : Except ShapeFault α} {f : α → Except ShapeFault β} (he : Reads writable e)
    (hf : ∀ a, e = .ok a → Reads writable (f a)) : Reads writable (e >>= f) := by
  rcases he with ⟨a, rfl⟩ | ⟨hnot, fault, rfl⟩
  · exact hf a rfl
  · exact Or.inr ⟨hnot, fault, rfl⟩

/-- A reader after one that is known to succeed. -/
theorem bind_ok {e : Except ShapeFault α} {a : α} {f : α → Except ShapeFault β} (he : e = .ok a)
    (hf : Reads writable (f a)) : Reads writable (e >>= f) := by
  rw [he]
  exact hf

/-- Two readers to choose from, with the same reader after either. -/
theorem bind_ite {c : Prop} [Decidable c] {e e' : Except ShapeFault α}
    {f : α → Except ShapeFault β} (he : Reads writable (if c then e else e'))
    (hf : ∀ a, Reads writable (f a)) : Reads writable (if c then e >>= f else e' >>= f) := by
  split
  · next hc =>
      rw [if_pos hc] at he
      exact bind he fun a _ => hf a
  · next hc =>
      rw [if_neg hc] at he
      exact bind he fun a _ => hf a

/-- A reader for each of several things. -/
theorem mapM {items : List α} {f : α → Except ShapeFault β}
    (h : ∀ item ∈ items, Reads writable (f item)) : Reads writable (items.mapM f) := by
  induction items with
  | nil => exact of_ok rfl
  | cons item rest ih =>
      rw [List.mapM_cons]
      refine bind (h item List.mem_cons_self) fun b _ => ?_
      refine bind (ih fun other hother => h other (List.mem_cons_of_mem _ hother)) fun bs _ => ?_
      exact pure (b :: bs)

theorem map {e : Except ShapeFault α} (f : α → β) (he : Reads writable e) :
    Reads writable (f <$> e) := by
  rcases he with ⟨a, rfl⟩ | ⟨hnot, fault, rfl⟩
  · exact of_ok rfl
  · exact Or.inr ⟨hnot, fault, rfl⟩

end Reads

namespace Value

/-! ## Numbers that can be written -/

theorem isWritable_of_mem_items {items : List Value} {item : Value}
    (h : (Value.list items).isWritable = true) (hmem : item ∈ items) : item.isWritable = true := by
  rw [isWritable] at h
  induction items with
  | nil => cases hmem
  | cons first rest ih =>
      rw [areWritable, Bool.and_eq_true] at h
      rcases List.mem_cons.mp hmem with rfl | hmem
      · exact h.1
      · exact ih h.2 hmem

theorem isWritable_of_mem_entries {entries : Entries} {e : Value × Value}
    (h : (Value.map entries).isWritable = true) (hmem : e ∈ entries) :
    e.1.isWritable = true ∧ e.2.isWritable = true := by
  rw [isWritable] at h
  induction entries with
  | nil => cases hmem
  | cons first rest ih =>
      rw [entriesWritable, Bool.and_eq_true, Bool.and_eq_true] at h
      rcases List.mem_cons.mp hmem with rfl | hmem
      · exact h.1
      · exact ih h.2 hmem

theorem isWritable_of_field? {entries : Entries} {key : String} {v : Value}
    (h : (Value.map entries).isWritable = true) (hfield : field? entries key = some v) :
    v.isWritable = true := by
  obtain ⟨k, hmem⟩ := exists_mem_of_field? hfield
  exact (isWritable_of_mem_entries h hmem).2

/-! ## Parts -/

variable {writable : Prop} {v : Value} {entries : Entries} {key place : String}

theorem reads_asText (hv : writable → v.isWritable = true) : Reads writable v.asText := by
  unfold asText writePlain
  by_cases hwritable : v.isWritable = true
  · simp only [hwritable, if_true]
    exact Reads.of_ok rfl
  · simp only [hwritable]
    exact Or.inr ⟨fun h => hwritable (hv h), _, rfl⟩

/-- A text stands for itself. -/
theorem asText_text (s : String) : (Value.text s).asText = .ok s := rfl

theorem reads_asText_of_text (h : Shape.Text v) : Reads writable v.asText := by
  obtain ⟨s, rfl⟩ := h
  exact Reads.of_ok (asText_text s)

theorem reads_texts {items : List Value} (h : ∀ item ∈ items, Shape.Text item) :
    Reads writable (items.mapM asText) :=
  Reads.mapM fun item hitem => reads_asText_of_text (h item hitem)

theorem mapOrAbsent_map (place : String) (entries : Entries) :
    (Value.map entries).mapOrAbsent place = .ok entries := by
  cases entries <;> rfl

theorem listOrAbsent_list (place : String) (items : List Value) :
    (Value.list items).listOrAbsent place = .ok items := by
  cases items <;> rfl

/-- The value under a key that may be missing is null or has the shape of the key's values. -/
theorem field_eq_null_or (entries : Entries) (key : String) :
    field entries key = .null ∨ field? entries key = some (field entries key) := by
  unfold field
  cases field? entries key with
  | none => exact Or.inl rfl
  | some v => exact Or.inr rfl

/-- A mapping under a key that may be missing. -/
theorem mapOrAbsent_field {p : Entries → Prop} (h : Shape.Field entries key (Shape.Mapping p))
    (place : String) :
    ∃ inside, (field entries key).mapOrAbsent place = .ok inside ∧
      (inside = [] ∨ (field? entries key = some (.map inside) ∧ p inside)) := by
  rcases field_eq_null_or entries key with hnull | hsome
  · exact ⟨[], by rw [hnull]; rfl, Or.inl rfl⟩
  · obtain ⟨inside, hmap, hp⟩ := h _ hsome
    rw [hmap] at hsome ⊢
    exact ⟨inside, mapOrAbsent_map place inside, Or.inr ⟨hsome, hp⟩⟩

/-- The entries of a mapping under a key that may be missing. -/
theorem mapOrAbsent_entries {p : Value → Prop} (h : Shape.Field entries key (Shape.Values p))
    (hw : writable → (Value.map entries).isWritable = true) (place : String) :
    ∃ inside, (field entries key).mapOrAbsent place = .ok inside ∧
      ∀ e ∈ inside, p e.2 ∧ (writable → e.1.isWritable = true ∧ e.2.isWritable = true) := by
  obtain ⟨inside, hread, rfl | ⟨hfield, hp⟩⟩ := mapOrAbsent_field h place
  · exact ⟨[], hread, by simp⟩
  · refine ⟨inside, hread, fun e he => ⟨hp e he, fun h => ?_⟩⟩
    exact isWritable_of_mem_entries (isWritable_of_field? (hw h) hfield) he

/-- The items of a list under a key that may be missing. -/
theorem listOrAbsent_items {p : Value → Prop} (h : Shape.Field entries key (Shape.Items p))
    (hw : writable → (Value.map entries).isWritable = true) (place : String) :
    ∃ items, (field entries key).listOrAbsent place = .ok items ∧
      ∀ item ∈ items, p item ∧ (writable → item.isWritable = true) := by
  rcases field_eq_null_or entries key with hnull | hsome
  · exact ⟨[], by rw [hnull]; rfl, by simp⟩
  · obtain ⟨items, hlist, hp⟩ := h _ hsome
    rw [hlist] at hsome ⊢
    refine ⟨items, listOrAbsent_list place items, fun item hitem => ⟨hp item hitem, fun h => ?_⟩⟩
    exact isWritable_of_mem_items (isWritable_of_field? (hw h) hsome) hitem

/-- Texts under a key that may be missing. -/
theorem reads_textsOrAbsent (h : Shape.Field entries key (Shape.Items Shape.Text)) :
    Reads writable (field entries key).textsOrAbsent := by
  rcases field_eq_null_or entries key with hnull | hsome
  · rw [hnull]
    exact Reads.of_ok rfl
  · obtain ⟨items, hlist, hp⟩ := h _ hsome
    rw [hlist]
    unfold textsOrAbsent
    split
    · exact Reads.pure []
    · exact Reads.bind (Reads.of_ok rfl) fun found hfound => by
        cases hfound
        exact reads_texts hp

end Value

namespace ProjectSpec

open Value

variable {writable : Prop} {v : Value} {entries : Entries}

/-! ## Settings -/

/-- The settings for configurations are looked for among the entries like any other part. -/
theorem readConfigsIn_eq (place : String) (entries : Entries) :
    readConfigsIn place entries =
      match field? entries "configs" with
      | some v => readConfigs place v
      | none => .ok [] := by
  induction entries with
  | nil => rfl
  | cons e rest ih =>
      obtain ⟨key, value⟩ := e
      by_cases hkey : key = .text "configs"
      · subst hkey
        rfl
      · rw [readConfigsIn, ih]
        · have hfield : field? ((key, value) :: rest) "configs" = field? rest "configs" := by
            unfold field?
            rw [List.find?_cons_of_neg]
            cases key <;> simp_all
          rw [hfield]
        · intro value' heq
          exact hkey (Prod.mk.inj heq).1

/-- Settings that may be blank. -/
theorem reads_settingsOrBlank {place : String}
    (hread : v ≠ .null → Reads writable (readSettings place v)) :
    Reads writable (if v.isBlank then Pure.pure .none else readSettings place v) := by
  by_cases hblank : v.isBlank = true
  · rw [if_pos hblank]
    exact Reads.pure _
  · rw [if_neg hblank]
    apply hread
    rintro rfl
    exact hblank rfl

/-- The settings for configurations are read if each of them is. -/
theorem reads_configEntries {inside : Entries}
    (hkeys : writable → ∀ e ∈ inside, e.1.isWritable = true)
    (hvalues : ∀ e ∈ inside, ∀ place, e.2 ≠ .null → Reads writable (readSettings place e.2))
    (place : String) : Reads writable (readConfigEntries place inside) := by
  induction inside with
  | nil => exact Reads.of_ok rfl
  | cons e rest ih =>
      obtain ⟨key, value⟩ := e
      have hrest := ih (fun h e he => hkeys h e (List.mem_cons_of_mem _ he))
        (fun e he => hvalues e (List.mem_cons_of_mem _ he))
      rw [readConfigEntries]
      refine Reads.bind (reads_asText fun h => hkeys h (key, value) List.mem_cons_self)
        fun config _ => ?_
      have hvalue := reads_settingsOrBlank (hvalues (key, value) List.mem_cons_self
        (place ++ "." ++ config))
      exact Reads.bind_ite hvalue fun _ => Reads.bind hrest fun _ _ => Reads.pure _

/-- Settings of the right shape are read, however deep they are. -/
theorem reads_settings (hshape : Shape.Settings v) (hw : writable → v.isWritable = true)
    (place : String) : Reads writable (readSettings place v) := by
  -- the reader goes on into the settings for configurations, and into nothing else
  induction hshape generalizing place with
  | @intro entries hbase hgroups hconfigs hinner ih =>
      have hconfigsRead : Reads writable (readConfigsIn (place ++ ".configs") entries) := by
        rw [readConfigsIn_eq]
        cases hfield : field? entries "configs" with
        | none => exact Reads.of_ok rfl
        | some configs =>
            obtain ⟨inside, rfl, -⟩ := hconfigs configs hfield
            have hparts := fun h => isWritable_of_field? (hw h) hfield
            exact reads_configEntries (fun h e he => (isWritable_of_mem_entries (hparts h) he).1)
              (fun e he place hnull => ih inside hfield e he hnull
                (fun h => (isWritable_of_mem_entries (hparts h) he).2) place) _
      obtain ⟨groups, hgroupsRead, htexts⟩ := listOrAbsent_items hgroups hw (place ++ ".groups")
      obtain ⟨base, hbaseRead, -⟩ := mapOrAbsent_field hbase (place ++ ".base")
      rw [readSettings]
      split
      · exact Reads.pure _
      · refine Reads.bind_ok hgroupsRead ?_
        refine Reads.bind hconfigsRead fun configSettings _ => ?_
        refine Reads.bind_ok hbaseRead ?_
        exact Reads.bind (reads_texts fun text htext => (htexts text htext).1) fun _ _ =>
          Reads.pure _

/-- Settings under a key that may be missing. -/
theorem reads_settings_field {key : String} (hshape : Shape.Field entries key Shape.Settings)
    (hw : writable → (Value.map entries).isWritable = true) (place : String) :
    Reads writable (readSettings place (field entries key)) := by
  rcases field_eq_null_or entries key with hnull | hsome
  · rw [hnull]
    exact Reads.of_ok rfl
  · exact reads_settings (hshape _ hsome) (fun h => isWritable_of_field? (hw h) hsome) place

/-- The groups of settings stand under either of their names. -/
theorem mapOrAbsent_settingGroups
    (hgroups : Shape.Field entries "settingGroups" (Shape.Values Shape.Settings))
    (hpresets : Shape.Field entries "settingPresets" (Shape.Values Shape.Settings))
    (hw : writable → (Value.map entries).isWritable = true) :
    ∃ inside, (match field entries "settingGroups" with
        | .null => field entries "settingPresets"
        | v => v).mapOrAbsent "settingGroups" = .ok inside ∧
      ∀ e ∈ inside, Shape.Settings e.2 ∧
        (writable → e.1.isWritable = true ∧ e.2.isWritable = true) := by
  split
  · exact mapOrAbsent_entries hpresets hw _
  · exact mapOrAbsent_entries hgroups hw _

/-- The groups of settings are read. -/
theorem reads_settingGroups
    (hgroups : Shape.Field entries "settingGroups" (Shape.Values Shape.Settings))
    (hpresets : Shape.Field entries "settingPresets" (Shape.Values Shape.Settings))
    (hw : writable → (Value.map entries).isWritable = true) :
    Reads writable (readSettingGroups entries) := by
  obtain ⟨inside, hread, hentries⟩ := mapOrAbsent_settingGroups hgroups hpresets hw
  unfold readSettingGroups
  refine Reads.bind_ok hread ?_
  refine Reads.bind (Reads.mapM fun e he => ?_) fun _ _ => Reads.pure _
  obtain ⟨hshape, hparts⟩ := hentries e he
  refine Reads.bind (reads_asText fun h => (hparts h).1) fun group _ => ?_
  have hvalue := reads_settingsOrBlank fun _ => reads_settings hshape (fun h => (hparts h).2)
    ("settingGroups." ++ group)
  exact Reads.bind_ite hvalue fun _ => Reads.pure _

/-! ## Configurations, files and scripts -/

/-- Config files are read. -/
theorem reads_configFiles {key : String}
    (hshape : Shape.Field entries key (Shape.Values Shape.Text))
    (hw : writable → (Value.map entries).isWritable = true) (place : String) :
    Reads writable (readConfigFiles place (field entries key)) := by
  obtain ⟨inside, hread, hentries⟩ := mapOrAbsent_entries hshape hw place
  unfold readConfigFiles
  refine Reads.bind_ok hread ?_
  refine Reads.bind (Reads.mapM fun e he => ?_) fun _ _ => Reads.pure _
  obtain ⟨htext, hparts⟩ := hentries e he
  refine Reads.bind (reads_asText fun h => (hparts h).1) fun _ _ => ?_
  exact Reads.bind (reads_asText_of_text htext) fun _ _ => Reads.pure _

/-- Configurations are read. -/
theorem reads_configurations
    (hshape : Shape.Field entries "configs" (Shape.Values Shape.ConfigWord))
    (hw : writable → (Value.map entries).isWritable = true) :
    Reads writable (readConfigurations (field entries "configs")) := by
  rcases field_eq_null_or entries "configs" with hnull | hsome
  · rw [hnull]
    exact Reads.of_ok rfl
  · obtain ⟨inside, hmap, hwords⟩ := hshape _ hsome
    rw [hmap] at hsome ⊢
    unfold readConfigurations
    refine Reads.bind_ok rfl (Reads.mapM fun e he => ?_)
    obtain ⟨kind, hkind⟩ := hwords e he
    have hparts := fun h => isWritable_of_mem_entries (isWritable_of_field? (hw h) hsome) he
    refine Reads.bind (reads_asText fun h => (hparts h).1) fun name _ => ?_
    refine Reads.bind (reads_asText fun h => (hparts h).2) fun word _ => ?_
    have hword : ConfigKind.ofText? kind.text = some kind := by cases kind <;> rfl
    rw [hkind]
    simp only [hword]
    exact Reads.pure _

/-- A source is read. -/
theorem reads_source (hshape : Shape.Source v) (place : String) :
    Reads writable (readSource place v) := by
  rcases hshape with ⟨s, rfl⟩ | ⟨entries, rfl, path, hpath, htext⟩
  · exact Reads.of_ok rfl
  · simp only [readSource, hpath]
    exact reads_asText_of_text htext

/-- Sources are read. -/
theorem reads_sources {key : String}
    (hshape : Shape.Field entries key fun v => Shape.Text v ∨ Shape.Items Shape.Source v)
    (place : String) : Reads writable (readSources place (field entries key)) := by
  rcases field_eq_null_or entries key with hnull | hsome
  · rw [hnull]
    exact Reads.of_ok rfl
  · rcases hshape _ hsome with ⟨s, htext⟩ | ⟨items, hlist, hsources⟩
    · rw [htext]
      exact Reads.of_ok rfl
    · rw [hlist]
      unfold readSources
      exact Reads.bind_ok rfl (Reads.mapM fun item hitem => reads_source (hsources item hitem) _)

/-- A dependency is read: one of its keys is found. -/
theorem reads_dependency (hshape : Shape.Mapping Shape.Dependency v)
    (hw : writable → v.isWritable = true) (place : String) :
    Reads writable (readDependency place v) := by
  obtain ⟨entries, rfl, kind, hkind⟩ := hshape
  unfold readDependency
  refine Reads.bind_ok rfl ?_
  cases hfound : DependencyKind.all.findSome? fun kind =>
      (field? entries kind.text).map (kind, ·) with
  | none =>
      rw [List.findSome?_eq_none_iff] at hfound
      have hmissing := hfound kind (by cases kind <;> decide)
      rw [Option.map_eq_none_iff] at hmissing
      rw [hasField, hmissing] at hkind
      cases hkind
  | some found =>
      obtain ⟨kind', -, hmap⟩ := List.exists_of_findSome?_eq_some hfound
      obtain ⟨reference, hfield, rfl⟩ := Option.map_eq_some_iff.mp hmap
      exact Reads.bind (reads_asText fun h => isWritable_of_field? (hw h) hfield) fun _ _ =>
        Reads.pure _

/-- The name of a script is read, if it has one. -/
theorem reads_scriptName (hname : Shape.Field entries "name" Shape.Text) (source : ScriptSource) :
    Reads writable
      (match field entries "name" with
        | .null => Pure.pure (⟨source, none⟩ : BuildScript)
        | name => do return ⟨source, some (← name.asText)⟩) := by
  rcases field_eq_null_or entries "name" with hnull | hsome
  · rw [hnull]
    exact Reads.pure _
  · obtain ⟨s, htext⟩ := hname _ hsome
    rw [htext]
    exact Reads.bind_ok (asText_text s) (Reads.pure _)

/-- A script is read: it has a path or a text. -/
theorem reads_script (hshape : Shape.Mapping Shape.Script v) (place : String) :
    Reads writable (readScript place v) := by
  obtain ⟨entries, rfl, hscript⟩ := hshape
  unfold readScript
  refine Reads.bind_ok rfl ?_
  cases hpath : field? entries "path" with
  | some path =>
      refine Reads.bind ((reads_asText_of_text (hscript.path _ hpath)).map _) fun source _ => ?_
      exact reads_scriptName hscript.name source
  | none =>
      cases htext : field? entries "script" with
      | some text =>
          refine Reads.bind ((reads_asText_of_text (hscript.script _ htext)).map _)
            fun source _ => ?_
          exact reads_scriptName hscript.name source
      | none =>
          have hsource := hscript.source
          simp [hasField, hpath, htext] at hsource

/-- Scripts are read. -/
theorem reads_scripts {key : String}
    (hshape : Shape.Field entries key (Shape.Items (Shape.Mapping Shape.Script)))
    (hw : writable → (Value.map entries).isWritable = true) (place : String) :
    Reads writable (readScripts place (field entries key)) := by
  obtain ⟨items, hread, hitems⟩ := listOrAbsent_items hshape hw place
  unfold readScripts
  exact Reads.bind_ok hread (Reads.mapM fun item hitem => reads_script (hitems item hitem).1 _)

/-! ## Targets and schemes -/

/-- The scheme of a target is read, if there is one. -/
theorem reads_targetScheme {key : String}
    (hshape : Shape.Field entries key (Shape.Mapping Shape.TargetScheme)) (place : String) :
    Reads writable (readTargetScheme place (field entries key)) := by
  rcases field_eq_null_or entries key with hnull | hsome
  · rw [hnull]
    exact Reads.of_ok rfl
  · obtain ⟨inside, hmap, hscheme⟩ := hshape _ hsome
    rw [hmap]
    unfold readTargetScheme
    refine Reads.bind_ok rfl ?_
    refine Reads.bind (reads_textsOrAbsent hscheme.configVariants) fun _ _ => ?_
    exact Reads.bind (reads_textsOrAbsent hscheme.testTargets) fun _ _ => Reads.pure _

/-- A target is read. -/
theorem reads_target (hshape : Shape.Mapping Shape.Target v)
    (hw : writable → v.isWritable = true) (name : String) :
    Reads writable (readTarget name v) := by
  obtain ⟨entries, rfl, htarget⟩ := hshape
  have htext : ∀ key, Shape.Field entries key Shape.Text →
      Reads writable ((field? entries key).getD (.text "")).asText := by
    intro key hkey
    cases hfield : field? entries key with
    | none => exact Reads.of_ok (asText_text "")
    | some v => exact reads_asText_of_text (hkey v hfield)
  obtain ⟨dependencies, hdependencies, hitems⟩ :=
    listOrAbsent_items htarget.dependencies hw ("targets." ++ name ++ "." ++ "dependencies")
  unfold readTarget
  refine Reads.bind_ok (mapOrAbsent_map _ entries) ?_
  refine Reads.bind (reads_targetScheme htarget.scheme _) fun _ _ => ?_
  refine Reads.bind (htext "type" htarget.type) fun _ _ => ?_
  refine Reads.bind (htext "platform" htarget.platform) fun _ _ => ?_
  refine Reads.bind (reads_sources htarget.sources _) fun _ _ => ?_
  refine Reads.bind_ok hdependencies ?_
  refine Reads.bind (Reads.mapM fun item hitem =>
    reads_dependency (hitems item hitem).1 (hitems item hitem).2 _) fun _ _ => ?_
  refine Reads.bind (reads_configFiles htarget.configFiles hw _) fun _ _ => ?_
  refine Reads.bind (reads_scripts htarget.prebuildScripts hw _) fun _ _ => ?_
  refine Reads.bind (reads_scripts htarget.postbuildScripts hw _) fun _ _ => ?_
  exact Reads.bind (reads_settings_field htarget.settings hw _) fun _ _ => Reads.pure _

/-- Targets are read. -/
theorem reads_targets {key : String}
    (hshape : Shape.Field entries key (Shape.Values (Shape.Mapping Shape.Target)))
    (hw : writable → (Value.map entries).isWritable = true) :
    Reads writable (readTargets (field entries key)) := by
  obtain ⟨inside, hread, hentries⟩ := mapOrAbsent_entries hshape hw "targets"
  unfold readTargets
  refine Reads.bind_ok hread (Reads.mapM fun e he => ?_)
  obtain ⟨htarget, hparts⟩ := hentries e he
  refine Reads.bind (reads_asText fun h => (hparts h).1) fun name _ => ?_
  exact reads_target htarget (fun h => (hparts h).2) name

/-- What a target of a scheme is built for is read. -/
theorem reads_buildTarget (hshape : Shape.Text v ∨ Shape.Items Shape.Text v)
    (place name : String) : Reads writable (readBuildTarget place name v) := by
  rcases hshape with ⟨s, rfl⟩ | ⟨items, rfl, htexts⟩
  · exact Reads.of_ok rfl
  · exact Reads.bind (reads_texts htexts) fun _ _ => Reads.pure _

/-- An action of a scheme is read, if there is one. -/
theorem reads_action {key : String}
    (hshape : Shape.Field entries key (Shape.Mapping Shape.Action)) (place : String) :
    Reads writable (readAction place (field entries key)) := by
  rcases field_eq_null_or entries key with hnull | hsome
  · rw [hnull]
    exact Reads.of_ok rfl
  · obtain ⟨inside, hmap, config, hconfig, htext⟩ := hshape _ hsome
    rw [hmap]
    unfold readAction
    refine Reads.bind_ok rfl ?_
    simp only [hconfig]
    exact Reads.bind (reads_asText_of_text htext) fun _ _ => Reads.pure _

/-- A scheme is read. -/
theorem reads_scheme (hshape : Shape.Mapping Shape.Scheme v)
    (hw : writable → v.isWritable = true) (name : String) :
    Reads writable (readScheme name v) := by
  obtain ⟨entries, rfl, hscheme⟩ := hshape
  obtain ⟨build, hbuildRead, hbuild⟩ :=
    mapOrAbsent_field hscheme.build ("schemes." ++ name ++ ".build")
  have htargets : ∃ targets, (field build "targets").mapOrAbsent
        ("schemes." ++ name ++ ".build.targets") = .ok targets ∧
      ∀ e ∈ targets, (Shape.Text e.2 ∨ Shape.Items Shape.Text e.2) ∧
        (writable → e.1.isWritable = true ∧ e.2.isWritable = true) := by
    rcases hbuild with rfl | ⟨hfield, hbuild⟩
    · exact ⟨[], rfl, by simp⟩
    · exact mapOrAbsent_entries hbuild (fun h => isWritable_of_field? (hw h) hfield) _
  obtain ⟨targets, htargetsRead, hentries⟩ := htargets
  unfold readScheme
  refine Reads.bind_ok (mapOrAbsent_map _ entries) ?_
  refine Reads.bind_ok hbuildRead ?_
  refine Reads.bind (reads_action (hscheme.action .run) _) fun _ _ => ?_
  refine Reads.bind (reads_action (hscheme.action .test) _) fun _ _ => ?_
  refine Reads.bind (reads_action (hscheme.action .profile) _) fun _ _ => ?_
  refine Reads.bind (reads_action (hscheme.action .analyze) _) fun _ _ => ?_
  refine Reads.bind (reads_action (hscheme.action .archive) _) fun _ _ => ?_
  refine Reads.bind_ok htargetsRead ?_
  refine Reads.bind (Reads.mapM fun e he => ?_) fun _ _ => Reads.pure _
  obtain ⟨htypes, hparts⟩ := hentries e he
  refine Reads.bind (reads_asText fun h => (hparts h).1) fun target _ => ?_
  exact reads_buildTarget htypes _ target

/-- Schemes are read. -/
theorem reads_schemes {key : String}
    (hshape : Shape.Field entries key (Shape.Values (Shape.Mapping Shape.Scheme)))
    (hw : writable → (Value.map entries).isWritable = true) :
    Reads writable (readSchemes (field entries key)) := by
  obtain ⟨inside, hread, hentries⟩ := mapOrAbsent_entries hshape hw "schemes"
  unfold readSchemes
  refine Reads.bind_ok hread (Reads.mapM fun e he => ?_)
  obtain ⟨hscheme, hparts⟩ := hentries e he
  refine Reads.bind (reads_asText fun h => (hparts h).1) fun name _ => ?_
  exact reads_scheme hscheme (fun h => (hparts h).2) name

/-! ## Specs -/

/-- The name of a spec is read, or its default is taken. -/
theorem reads_name {key : String} (hshape : Shape.Field entries key Shape.Text)
    (defaultName : String) :
    Reads writable (if (field entries key).isBlank then Pure.pure defaultName
      else (field entries key).asText) := by
  rcases field_eq_null_or entries key with hnull | hsome
  · rw [hnull]
    exact Reads.of_ok rfl
  · split
    · exact Reads.pure _
    · exact reads_asText_of_text (hshape _ hsome)

/-- **A spec of the right shape is read.** -/
theorem reads_spec {data : Entries} (hshape : Shape.Spec data)
    (hw : writable → (Value.map data).isWritable = true) (basePath : Path)
    (defaultName : String) : Reads writable (read basePath defaultName (.map data)) := by
  obtain ⟨options, hoptionsRead, -⟩ := mapOrAbsent_field hshape.options "options"
  obtain ⟨fileGroups, hgroupsRead, htexts⟩ :=
    listOrAbsent_items hshape.fileGroups hw "fileGroups"
  unfold read
  refine Reads.bind_ok rfl ?_
  refine Reads.bind_ite (reads_name hshape.name defaultName) fun name => ?_
  refine Reads.bind (reads_configurations hshape.configs hw) fun _ _ => ?_
  refine Reads.bind (reads_settingGroups hshape.settingGroups hshape.settingPresets hw)
    fun _ _ => ?_
  refine Reads.bind (reads_settings_field hshape.settings hw _) fun _ _ => ?_
  refine Reads.bind (reads_targets hshape.targets hw) fun _ _ => ?_
  refine Reads.bind (reads_schemes hshape.schemes hw) fun _ _ => ?_
  refine Reads.bind_ok hgroupsRead ?_
  refine Reads.bind (reads_texts fun text htext => (htexts text htext).1) fun _ _ => ?_
  refine Reads.bind (reads_configFiles hshape.configFiles hw _) fun _ _ => ?_
  exact Reads.bind_ok hoptionsRead (Reads.pure _)

end ProjectSpec

end BuildSpec
