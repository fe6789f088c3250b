import BuildSpec.Proofs.Schema.SpecShape
import BuildSpec.Proofs.Spec.Reading

/-!
# Which data the schema accepts

Data without issues has the shape of a spec; here is the way back.  A check of data that has the
shape comes to nothing in one case only: sources in a list are first looked at as a text, which they
are not, and the words for that hold all of them.  Nowhere else is anything of such data written.

* `Obeys` — no issue, at whatever level a check comes to a value; one lemma for each kind of rule;
* `Tellable` — the issues can be told, which matters for alternatives that are not met;
* `settings_obey`, `target_obeys`, `scheme_obeys`, `spec_obeys` — data of a shape obeys its rules;
* `issues_eq_nil_iff` — exactly the data that is accepted.
-/

namespace BuildSpec

open Value

namespace Schema

namespace Scope

variable {scope : Scope} {v : Value}

/-- A value obeys one of several schemas as soon as the search for such a schema ends well. -/
theorem anyOf_eq_nil_iff {options : List (List Rule)} :
    scope.ruleIssues v (.anyOf options) = .ok [] ↔ scope.someHolds v options = .ok true := by
  rw [ruleIssues, bind_eq_ok_iff]
  constructor
  · rintro ⟨holds, hholds, h⟩
    cases holds with
    | true => exact hholds
    | false => exact absurd (by simpa using h) (issue_ne_nil _ _)
  · exact fun h => ⟨true, h, rfl⟩

/-- The search for a schema that the value obeys ends well if nothing on the way cannot be told. -/
theorem someHolds_of_mem {options : List (List Rule)} {rules : List Rule}
    (hoptions : ∀ other ∈ options, ∃ issues, scope.rulesIssues v other = .ok issues)
    (hmem : rules ∈ options) (h : scope.rulesIssues v rules = .ok []) :
    scope.someHolds v options = .ok true := by
  induction options with
  | nil => cases hmem
  | cons first rest ih =>
      obtain ⟨⟨issues, hissues⟩, hrest⟩ := List.forall_mem_cons.mp hoptions
      rw [someHolds, hissues]
      cases issues with
      | nil => rfl
      | cons issue issues =>
          rcases List.mem_cons.mp hmem with rfl | hmem
          · rw [hissues] at h
            cases h
          · exact ih hrest hmem

end Scope

namespace Document

variable {document : Document} {rule : Rule} {rules rest : List Rule} {v : Value}
  {entries : Entries}

/-- A value has no issue under some rules, however many levels below it may be looked at and
however many references may be followed. -/
def Obeys (document : Document) (rules : List Rule) (v : Value) : Prop :=
  ∀ levels hops, (document.scopeAt levels hops).rulesIssues v rules = .ok []

/-- The issues of a value under some rules can be told, whether there are any or not. -/
def Tellable (document : Document) (rules : List Rule) (v : Value) : Prop :=
  ∀ levels hops, ∃ issues, (document.scopeAt levels hops).rulesIssues v rules = .ok issues

theorem Obeys.tellable (h : document.Obeys rules v) : document.Tellable rules v :=
  fun levels hops => ⟨[], h levels hops⟩

/-- A part of a value that obeys the rules for it has no issues. -/
theorem Obeys.issuesTo_eq_nil (h : document.Obeys rules v) (levels : Nat) :
    document.issuesTo levels rules v = .ok [] := by
  cases levels with
  | zero => rfl
  | succ below => exact h below document.targets.length

/-- Data that obeys the rules of a schema has no issues. -/
theorem Obeys.issues_eq_nil (h : document.Obeys document.rules (.map entries)) :
    document.issues (.map entries) = .ok [] := by
  simp [issues, rawIssues, h.issuesTo_eq_nil, Functor.map, Except.map]

theorem obeys_of_rule
    (h : ∀ levels hops, (document.scopeAt levels hops).ruleIssues v rule = .ok []) :
    document.Obeys [rule] v :=
  fun levels hops => Scope.rulesIssues_singleton_eq_nil_iff.mpr (h levels hops)

theorem Obeys.cons (hrule : document.Obeys [rule] v) (hrest : document.Obeys rest v) :
    document.Obeys (rule :: rest) v := by
  intro levels hops
  have hfirst := Scope.rulesIssues_singleton_eq_nil_iff.mp (hrule levels hops)
  exact Scope.rulesIssues_cons_eq_nil_iff.mpr ⟨hfirst, hrest levels hops⟩

theorem obeys_kinds {words : List String}
    (h : words.any (isKind document.edition · v) = true) : document.Obeys [.kinds words] v := by
  refine obeys_of_rule fun levels hops => ?_
  rw [Scope.ruleIssues]
  exact if_pos h

theorem obeys_oneOf {values : List Value} (h : values.any (Value.equalData · v) = true) :
    document.Obeys [.oneOf values] v := by
  refine obeys_of_rule fun levels hops => ?_
  rw [Scope.ruleIssues, if_pos h]
  rfl

theorem obeys_required {names : List String}
    (h : ∀ name ∈ names, Value.hasField entries name = true) :
    document.Obeys [.required names] (.map entries) := by
  refine obeys_of_rule fun levels hops => ?_
  simpa [Scope.ruleIssues] using h

theorem obeys_properties {fields : List (String × List Rule)}
    (h : ∀ f ∈ fields, ∀ part, field? (Scope.entriesOf v) f.1 = some part →
      document.Obeys f.2 part) : document.Obeys [.properties fields] v := by
  refine obeys_of_rule fun levels hops => ?_
  rw [Scope.ruleIssues, Findings.ofAll_eq_nil_iff]
  rintro ⟨name, rules⟩ hf
  cases hpart : field? (Scope.entriesOf v) name with
  | none => simp only [hpart]
  | some part =>
      simp only [hpart, Scope.issuesAt_eq_nil_iff]
      exact (h (name, rules) hf part hpart).issuesTo_eq_nil levels

theorem obeys_otherProperties {declared : List String}
    (h : ∀ e ∈ entries, document.Obeys rules e.2) :
    document.Obeys [.otherProperties declared rules] (.map entries) := by
  refine obeys_of_rule fun levels hops => ?_
  rw [Scope.ruleIssues, Findings.ofAll_eq_nil_iff]
  intro e he
  by_cases hother : Scope.isOther declared e.1 = true
  · simp only [hother, if_true, Scope.issuesUnder_eq_nil_iff]
    exact (h e he).issuesTo_eq_nil levels
  · simp only [hother, Bool.false_eq_true, if_false]

theorem obeys_items {items : List Value} (h : ∀ item ∈ items, document.Obeys rules item) :
    document.Obeys [.items rules] (.list items) := by
  refine obeys_of_rule fun levels hops => ?_
  rw [Scope.ruleIssues, Findings.ofAll_eq_nil_iff]
  rintro ⟨item, i⟩ hitem
  have hmem : item ∈ items := List.mem_of_getElem? (List.mem_zipIdx_iff_getElem?.mp hitem)
  exact Scope.issuesAt_eq_nil_iff.mpr ((h item hmem).issuesTo_eq_nil levels)

/-- The value obeys one of several schemas, and what is wrong with it under any of them can be
told. -/
theorem obeys_anyOf {options : List (List Rule)} (hmem : rules ∈ options)
    (hoptions : ∀ other ∈ options, document.Tellable other v) (h : document.Obeys rules v) :
    document.Obeys [.anyOf options] v :=
  obeys_of_rule fun levels hops => Scope.anyOf_eq_nil_iff.mpr
    (Scope.someHolds_of_mem (fun other hother => hoptions other hother levels hops) hmem
      (h levels hops))

/-- The value obeys the first one of several schemas; the others are not looked at. -/
theorem obeys_anyOf_first {others : List (List Rule)} (h : document.Obeys rules v) :
    document.Obeys [.anyOf (rules :: others)] v := by
  refine obeys_of_rule fun levels hops => Scope.anyOf_eq_nil_iff.mpr ?_
  rw [Scope.someHolds, h levels hops]
  rfl

/-- Of two schemas, the value obeys the second one. -/
theorem obeys_anyOf_second {first : List Rule} (hfirst : document.Tellable first v)
    (h : document.Obeys rules v) : document.Obeys [.anyOf [first, rules]] v := by
  refine obeys_anyOf (List.mem_cons_of_mem _ List.mem_cons_self) ?_ h
  exact List.forall_mem_cons.mpr ⟨hfirst, List.forall_mem_singleton.mpr h.tellable⟩

/-- A reference leads to rules that the value obeys. -/
theorem obeys_reference {target : String} (htarget : document.targets.lookup target = some rules)
    (h : document.Obeys rules v) : document.Obeys [.reference target] v := by
  refine obeys_of_rule fun levels hops => ?_
  simp only [Scope.ruleIssues, scopeAt, htarget]
  cases hops with
  | zero => rfl
  | succ hops => exact h levels hops

theorem tellable_of_rule
    (h : ∀ levels hops, ∃ issues, (document.scopeAt levels hops).ruleIssues v rule = .ok issues) :
    document.Tellable [rule] v := by
  intro levels hops
  obtain ⟨issues, hissues⟩ := h levels hops
  exact ⟨issues ++ [], by rw [Scope.rulesIssues, hissues]; rfl⟩

theorem Tellable.cons (hrule : document.Tellable [rule] v) (hrest : document.Tellable rest v) :
    document.Tellable (rule :: rest) v := by
  intro levels hops
  obtain ⟨issues, hissues⟩ := hrule levels hops
  rw [Scope.rulesIssues, bind_eq_ok_iff] at hissues
  obtain ⟨first, hfirst, -⟩ := hissues
  obtain ⟨others, hothers⟩ := hrest levels hops
  exact ⟨first ++ others, by rw [Scope.rulesIssues, hfirst, hothers]; rfl⟩

/-- That a value is of another kind can be told if the value can be written. -/
theorem tellable_kinds {words : List String} (h : v.isWritable = true) :
    document.Tellable [.kinds words] v := by
  refine tellable_of_rule fun levels hops => ?_
  rw [Scope.ruleIssues]
  split
  · exact ⟨[], rfl⟩
  · simp only [Scope.issue, writeShown, h, if_true]
    exact ⟨_, rfl⟩

/-- Which keys are missing can always be told. -/
theorem tellable_required {names : List String} : document.Tellable [.required names] v := by
  refine tellable_of_rule fun levels hops => ?_
  unfold Scope.ruleIssues
  split <;> exact ⟨_, rfl⟩

theorem tellable_reference {target : String}
    (htarget : document.targets.lookup target = some rules) (h : document.Tellable rules v) :
    document.Tellable [.reference target] v := by
  refine tellable_of_rule fun levels hops => ?_
  simp only [Scope.ruleIssues, scopeAt, htarget]
  cases hops with
  | zero => exact ⟨[], rfl⟩
  | succ hops => exact h levels hops

/-- A value that is of no kind of those that come first was told to be so, so it can be written. -/
theorem accepts_anyOf_kinds {hops : Nat} {words : List String} {others : List Rule}
    (h : document.Accepts hops [.anyOf [[.kinds words], others]] v) :
    words.any (isKind document.edition · v) = true ∨ v.isWritable = true := by
  obtain ⟨levels, -, h⟩ := exists_of_accepts_rule h
  rw [Scope.anyOf_eq_nil_iff, Scope.someHolds, bind_eq_ok_iff] at h
  obtain ⟨issues, hissues, -⟩ := h
  rw [Scope.rulesIssues, bind_eq_ok_iff] at hissues
  obtain ⟨first, hfirst, -⟩ := hissues
  rw [Scope.ruleIssues] at hfirst
  split at hfirst
  · next hany => exact Or.inl hany
  · rw [Scope.issue, bind_eq_ok_iff] at hfirst
    obtain ⟨shown, hshown, -⟩ := hfirst
    unfold writeShown at hshown
    split at hshown
    · next hwritable => exact Or.inr hwritable
    · cases hshown

end Document

end Schema

/-! ## Data of a shape obeys its rules -/

namespace Shape

variable {v : Value} {entries : Entries} {key : String} {p q : Value → Prop}

/-- The sources of a target can be written: none of the whole numbers in them is too long. -/
def WritableSources (target : Entries) : Prop :=
  Field target "sources" fun sources => sources.isWritable = true

/-- The sources of all targets of a spec can be written. -/
def AllSourcesWritable (entries : Entries) : Prop :=
  Field entries "targets" (Values (Mapping WritableSources))

theorem Field.imp (h : Field entries key p) (hpq : ∀ v, p v → q v) : Field entries key q :=
  fun v hv => hpq v (h v hv)

/-- A key that a mapping does not have may be followed by anything. -/
theorem Field.of_absent (h : hasField entries key = false) : Field entries key p := by
  intro v hv
  rw [hasField, hv] at h
  cases h

theorem Text.isWritable (h : Text v) : v.isWritable = true := by
  obtain ⟨s, rfl⟩ := h
  rfl

/-- A list of texts can be written. -/
theorem isWritable_of_texts (h : Items Text v) : v.isWritable = true := by
  obtain ⟨items, rfl, hitems⟩ := h
  rw [Value.isWritable]
  induction items with
  | nil => rfl
  | cons first rest ih =>
      obtain ⟨hfirst, hrest⟩ := List.forall_mem_cons.mp hitems
      rw [areWritable, hfirst.isWritable, ih hrest]
      rfl

end Shape

namespace Schema

open Document Shape

variable {v : Value} {entries : Entries} {p : Value → Prop} {rules rest : List Rule}

/-- A reference leads to a definition of the schema that the value obeys. -/
theorem obeys_definition {target : String} (htarget : specTargets.lookup target = some rules)
    (h : projectSpec.Obeys rules v) : projectSpec.Obeys [.reference target] v :=
  obeys_reference (by rw [projectSpec_eq]; exact htarget) h

theorem mapping_obeys (h : projectSpec.Obeys rest (.map entries)) :
    projectSpec.Obeys (.kinds ["object"] :: rest) (.map entries) :=
  (obeys_kinds (by simp [isKind_object_iff])).cons h

theorem fields_obey {fields : List (String × List Rule)}
    (h : ∀ f ∈ fields, Field entries f.1 (projectSpec.Obeys f.2)) :
    projectSpec.Obeys [.kinds ["object"], .properties fields] (.map entries) :=
  mapping_obeys (obeys_properties fun f hf part hpart => h f hf part hpart)

theorem values_obey (h : Values p v) (hp : ∀ v, p v → projectSpec.Obeys rules v) :
    projectSpec.Obeys [.kinds ["object"], .otherProperties [] rules] v := by
  obtain ⟨entries, rfl, hvalues⟩ := h
  exact mapping_obeys (obeys_otherProperties fun e he => hp e.2 (hvalues e he))

theorem items_obey (h : Items p v) (hp : ∀ v, p v → projectSpec.Obeys rules v) :
    projectSpec.Obeys [.kinds ["array"], .items rules] v := by
  obtain ⟨items, rfl, hitems⟩ := h
  exact (obeys_kinds (by simp [isKind_array_iff])).cons
    (obeys_items fun item hitem => hp item (hitems item hitem))

theorem text_obeys (h : Text v) : projectSpec.Obeys textRules v :=
  obeys_kinds (by simpa using isKind_string_iff.mpr h)

theorem texts_obey (h : Items Text v) :
    projectSpec.Obeys [.reference "#/definitions/stringList"] v :=
  obeys_definition rfl (items_obey h fun _ => text_obeys)

/-- A mapping that must have a text under a key. -/
theorem requiredText_obeys {key : String} {part : Value} (hfound : field? entries key = some part)
    (htext : Text part) :
    projectSpec.Obeys [.kinds ["object"], .required [key], .properties [(key, textRules)]]
      (.map entries) := by
  have hkey : hasField entries key = true := by rw [hasField, hfound]; rfl
  refine mapping_obeys (Obeys.cons ?_ (obeys_properties (List.forall_mem_singleton.mpr ?_)))
  · exact obeys_required (List.forall_mem_singleton.mpr hkey)
  · intro found hpart
    cases hfound.symm.trans hpart
    exact text_obeys htext

theorem configFiles_obey (h : Values Text v) :
    projectSpec.Obeys [.reference "#/definitions/configFiles"] v :=
  obeys_definition rfl (values_obey h fun _ => text_obeys)

/-- That null is no settings can be told. -/
theorem tellable_settings_of_null :
    projectSpec.Tellable [.reference "#/definitions/settings"] .null := by
  refine tellable_reference (by rw [projectSpec_eq]; rfl) ?_
  refine (tellable_kinds rfl).cons (obeys_properties ?_).tellable
  intro f _ part hpart
  cases hpart

/-- Settings obey their rules; the settings inside them do so by induction. -/
theorem settings_obey (h : Shape.Settings v) :
    projectSpec.Obeys [.reference "#/definitions/settings"] v := by
  induction h with
  | @intro entries base groups configs inner ih =>
      refine obeys_definition rfl (fields_obey ?_)
      simp only [List.forall_mem_cons]
      refine ⟨?_, groups.imp fun _ => texts_obey, ?_, fun f hf => by cases hf⟩
      · rintro v hv
        obtain ⟨inside, rfl, -⟩ := base v hv
        exact obeys_kinds (by simp [isKind_object_iff])
      · rintro v hv
        obtain ⟨inside, rfl, -⟩ := configs v hv
        refine mapping_obeys (obeys_otherProperties fun e he => ?_)
        by_cases hnull : e.2 = .null
        · rw [hnull]
          exact obeys_anyOf_second tellable_settings_of_null
            (obeys_kinds (by simp [isKind_null_iff]))
        · exact obeys_anyOf_first (ih inside hv e he hnull)

theorem script_obeys (h : Mapping Script v) :
    projectSpec.Obeys [.reference "#/definitions/buildScript"] v := by
  obtain ⟨entries, rfl, hscript⟩ := h
  refine obeys_definition rfl (mapping_obeys (Obeys.cons (obeys_properties ?_) ?_))
  · simp only [List.forall_mem_cons]
    exact ⟨hscript.name.imp fun _ => text_obeys, hscript.path.imp fun _ => text_obeys,
      hscript.script.imp fun _ => text_obeys, fun f hf => by cases hf⟩
  · rcases hscript.source with hpath | hscript
    · exact obeys_anyOf_first (obeys_required (List.forall_mem_singleton.mpr hpath))
    · exact obeys_anyOf_second tellable_required
        (obeys_required (List.forall_mem_singleton.mpr hscript))

theorem scripts_obey (h : Items (Mapping Script) v) :
    projectSpec.Obeys [.reference "#/definitions/buildScripts"] v :=
  obeys_definition rfl (items_obey h fun _ => script_obeys)

theorem dependency_obeys (h : Mapping Shape.Dependency v) :
    projectSpec.Obeys [.reference "#/definitions/dependency"] v := by
  obtain ⟨entries, rfl, kind, hkind⟩ := h
  have hkey : projectSpec.Obeys [.required [kind.text]] (.map entries) :=
    obeys_required (List.forall_mem_singleton.mpr hkind)
  refine obeys_definition rfl (mapping_obeys (obeys_anyOf ?_ ?_ hkey))
  · cases kind <;> simp [DependencyKind.text]
  · simp only [List.forall_mem_cons]
    exact ⟨tellable_required, tellable_required, tellable_required, tellable_required,
      tellable_required, fun _ hother => by cases hother⟩

/-- A source obeys its rules if it can be written. -/
theorem source_obeys (h : Source v) (hwritable : v.isWritable = true) :
    projectSpec.Obeys [.anyOf [textRules, sourceMappingRules]] v := by
  rcases h with htext | ⟨entries, rfl, path, hfound, hpath⟩
  · exact obeys_anyOf_first (text_obeys htext)
  · exact obeys_anyOf_second (tellable_kinds hwritable) (requiredText_obeys hfound hpath)

/-- Sources obey their rules if they can be written. -/
theorem sources_obey (h : Text v ∨ Items Source v) (hwritable : v.isWritable = true) :
    projectSpec.Obeys [.reference "#/definitions/sources"] v := by
  refine obeys_definition rfl ?_
  rcases h with htext | ⟨items, rfl, hitems⟩
  · exact obeys_anyOf_first (text_obeys htext)
  · have hobey : Items (projectSpec.Obeys [.anyOf [textRules, sourceMappingRules]])
        (.list items) :=
      ⟨items, rfl, fun item hitem =>
        source_obeys (hitems item hitem) (isWritable_of_mem_items hwritable hitem)⟩
    exact obeys_anyOf_second (tellable_kinds hwritable) (items_obey hobey fun _ hitem => hitem)

theorem targetScheme_obeys (h : Mapping Shape.TargetScheme v) :
    projectSpec.Obeys targetSchemeRules v := by
  obtain ⟨entries, rfl, hscheme⟩ := h
  refine fields_obey ?_
  simp only [List.forall_mem_cons]
  exact ⟨hscheme.configVariants.imp fun _ => texts_obey, hscheme.testTargets.imp fun _ => texts_obey,
    fun f hf => by cases hf⟩

/-- A target obeys its rules if its sources can be written. -/
theorem target_obeys (h : Shape.Target entries) (hwritable : WritableSources entries) :
    projectSpec.Obeys [.reference "#/definitions/target"] (.map entries) := by
  refine obeys_definition rfl (fields_obey ?_)
  simp only [List.forall_mem_cons]
  refine ⟨h.type.imp fun _ => text_obeys, h.platform.imp fun _ => text_obeys, ?_,
    h.dependencies.imp fun _ hv => items_obey hv fun _ => dependency_obeys,
    h.configFiles.imp fun _ => configFiles_obey, h.scheme.imp fun _ => targetScheme_obeys,
    h.prebuildScripts.imp fun _ => scripts_obey, h.postbuildScripts.imp fun _ => scripts_obey,
    h.settings.imp fun _ => settings_obey, fun f hf => by cases hf⟩
  exact fun sources hfound => sources_obey (h.sources sources hfound) (hwritable sources hfound)

theorem action_obeys (h : Mapping Action v) :
    projectSpec.Obeys [.reference "#/definitions/buildAction"] v := by
  obtain ⟨entries, rfl, config, hfound, hconfig⟩ := h
  exact obeys_definition rfl (requiredText_obeys hfound hconfig)

theorem build_obeys (h : Mapping Build v) : projectSpec.Obeys buildRules v := by
  obtain ⟨entries, rfl, hbuild⟩ := h
  refine fields_obey (List.forall_mem_singleton.mpr ?_)
  refine hbuild.imp fun _ htargets => values_obey htargets fun types htypes => ?_
  rcases htypes with htext | htexts
  · exact obeys_anyOf_first (text_obeys htext)
  · exact obeys_anyOf_second (tellable_kinds (isWritable_of_texts htexts)) (texts_obey htexts)

theorem scheme_obeys (h : Mapping Shape.Scheme v) :
    projectSpec.Obeys [.reference "#/definitions/scheme"] v := by
  obtain ⟨entries, rfl, hscheme⟩ := h
  have haction : ∀ a : SchemeAction, Field entries a.text
      (projectSpec.Obeys [.reference "#/definitions/buildAction"]) :=
    fun a => (hscheme.action a).imp fun _ => action_obeys
  refine obeys_definition rfl (fields_obey ?_)
  simp only [List.forall_mem_cons]
  exact ⟨hscheme.build.imp fun _ => build_obeys, haction .run, haction .test, haction .profile,
    haction .analyze, haction .archive, fun f hf => by cases hf⟩

theorem configWord_obeys (h : ConfigWord v) :
    projectSpec.Obeys [.oneOf [.text "debug", .text "release"]] v := by
  obtain ⟨kind, rfl⟩ := h
  refine obeys_oneOf ?_
  cases kind <;> simp [equalData, sameScalar, ConfigKind.text]

theorem settingGroups_obey (h : Values Shape.Settings v) :
    projectSpec.Obeys settingGroupsRules v :=
  values_obey h fun _ => settings_obey

/-- **Data of the shape of a spec obeys the rules for specs**, if the sources of its targets can be
written. -/
theorem spec_obeys (h : Shape.Spec entries) (hwritable : AllSourcesWritable entries) :
    projectSpec.Obeys specRules (.map entries) := by
  refine fields_obey ?_
  simp only [List.forall_mem_cons]
  refine ⟨h.name.imp fun _ => text_obeys, ?_,
    h.configs.imp fun _ hv => values_obey hv fun _ => configWord_obeys,
    h.settings.imp fun _ => settings_obey, h.settingGroups.imp fun _ => settingGroups_obey,
    h.settingPresets.imp fun _ => settingGroups_obey, h.fileGroups.imp fun _ => texts_obey,
    h.configFiles.imp fun _ => configFiles_obey, ?_,
    h.schemes.imp fun _ hv => values_obey hv fun _ => scheme_obeys, fun f hf => by cases hf⟩
  · intro options hfound
    obtain ⟨inside, rfl, hversion⟩ := h.options options hfound
    exact fields_obey (List.forall_mem_singleton.mpr (hversion.imp fun _ => text_obeys))
  · intro targets hfound
    obtain ⟨inside, rfl, htargets⟩ := h.targets targets hfound
    obtain ⟨same, hsame, hsources⟩ := hwritable _ hfound
    cases hsame
    refine mapping_obeys (obeys_otherProperties fun e he => ?_)
    obtain ⟨target, htarget, hshape⟩ := htargets e he
    obtain ⟨same, hsame, hwritable⟩ := hsources e he
    rw [htarget] at hsame ⊢
    cases hsame
    exact target_obeys hshape hwritable

/-! ## What can be written -/

/-- Sources that are accepted are a text, or were found to be none. -/
theorem writableSources_of_reference
    (h : projectSpec.Accepts 24 [.reference "#/definitions/target"] v) :
    Mapping WritableSources v := by
  obtain ⟨entries, rfl, hrest⟩ := mapping_of_accepts (accepts_definition rfl h)
  have hfields := fields_of_accepts hrest
  simp only [List.forall_mem_cons] at hfields
  obtain ⟨-, -, hsources, -⟩ := hfields
  refine ⟨entries, rfl, fun sources hfound => ?_⟩
  rcases accepts_anyOf_kinds (accepts_definition rfl (hsources sources hfound)) with
    htext | hwritable
  · exact (isKind_string_iff.mp (by simpa using htext)).isWritable
  · exact hwritable

theorem allSourcesWritable_of_accepts {hops : Nat}
    (h : projectSpec.Accepts hops specRules (.map entries)) : AllSourcesWritable entries := by
  have hfields := fields_of_accepts (accepts_cons h).2
  simp only [List.forall_mem_cons] at hfields
  obtain ⟨-, -, -, -, -, -, -, -, htargets, -⟩ := hfields
  exact fun targets hfound =>
    values_of_accepts (fun _ => writableSources_of_reference) (htargets targets hfound)

theorem projectSpec_rules : projectSpec.rules = specRules := by rw [projectSpec_eq]

/-- In data without issues, the sources of all targets can be written. -/
theorem allSourcesWritable_of_issues_eq_nil (h : projectSpec.issues (.map entries) = .ok []) :
    AllSourcesWritable entries := by
  have haccepts := accepts_of_issues_eq_nil h
  rw [projectSpec_rules] at haccepts
  exact allSourcesWritable_of_accepts haccepts

/-- **The data that the schema accepts**: it has the shape of a spec, and no source of a target holds
a whole number that is too long to be written. -/
theorem issues_eq_nil_iff (v : Value) :
    projectSpec.issues v = .ok [] ↔
      Mapping (fun entries => Shape.Spec entries ∧ AllSourcesWritable entries) v := by
  constructor
  · intro h
    cases v with
    | map entries =>
        exact ⟨entries, rfl, .of_issues_eq_nil h, allSourcesWritable_of_issues_eq_nil h⟩
    | _ => simp [issues] at h
  · rintro ⟨entries, rfl, hshape, hwritable⟩
    refine Obeys.issues_eq_nil ?_
    rw [projectSpec_rules]
    exact spec_obeys hshape hwritable

/-- A spec with one target; a source of the target is a mapping with a number that is too long to be
written. -/
def oversizedSpec : Entries :=
  [(.text "targets", .map [
    (.text "App", .map [
      (.text "sources", .list [
        .map [(.text "path", .text "Sources/App"), (.text "size", .int (Nat.pow 16 3572))]])])])]

theorem oversizedSpec_shape : Shape.Spec oversizedSpec := by
  refine
    { name := .of_absent rfl, options := .of_absent rfl, configs := .of_absent rfl
      settings := .of_absent rfl, settingGroups := .of_absent rfl
      settingPresets := .of_absent rfl, fileGroups := .of_absent rfl
      configFiles := .of_absent rfl, schemes := .of_absent rfl, targets := ?_ }
  intro targets htargets
  cases htargets
  refine ⟨_, rfl, List.forall_mem_singleton.mpr ⟨_, rfl, ?_⟩⟩
  refine
    { type := .of_absent rfl, platform := .of_absent rfl, dependencies := .of_absent rfl
      configFiles := .of_absent rfl, scheme := .of_absent rfl
      prebuildScripts := .of_absent rfl, postbuildScripts := .of_absent rfl
      settings := .of_absent rfl, sources := ?_ }
  intro sources hsources
  cases hsources
  exact Or.inr ⟨_, rfl, List.forall_mem_singleton.mpr (Or.inr ⟨_, rfl, _, rfl, _, rfl⟩)⟩

/-- The shape alone does not decide: that the sources are no text cannot be told here, and so the
check of data that has the shape comes to a fault. -/
theorem oversizedSpec_is_not_accepted :
    ¬ (projectSpec.issues (.map oversizedSpec) = .ok [] ↔
      Mapping Shape.Spec (.map oversizedSpec)) := by
  intro hsame
  have hwritable : AllSourcesWritable oversizedSpec :=
    allSourcesWritable_of_issues_eq_nil (hsame.mpr ⟨_, rfl, oversizedSpec_shape⟩)
  obtain ⟨targets, htargets, hvalues⟩ := hwritable _ rfl
  cases htargets
  obtain ⟨target, htarget, hsources⟩ := hvalues _ List.mem_cons_self
  cases htarget
  have hsource := isWritable_of_mem_items (hsources _ rfl) List.mem_cons_self
  have hsize : (Value.int (Nat.pow 16 3572)).isWritable = true :=
    (isWritable_of_mem_entries hsource (List.mem_cons_of_mem _ List.mem_cons_self)).2
  exact absurd hsize (by decide +kernel)

end Schema

end BuildSpec
