import BuildSpec.Proofs.Audit.Inquiry

/-!
# Specs that grow

An author who mends a spec adds to it: a configuration, a file on the disk, a group or a target that
was missing.  This file compares the audits before and after, as whole lists of defects:

* `referenceFindings_sublist` and `settingsFindings_sublist` — with more names in the spec, a
  reference or a walk comes upon the same things, apart from names that led nowhere before;
* `defects_sublist_of_growth` — so with more configurations and more files some defects go, and the
  others stay in their order;
* `referenceFindings_eq_filter`, `settingsFindings_eq_filter` and `findings_eq_filter` — of a spec
  in which one missing name has been declared, the findings are those of before without the defects
  that told of the name;
* `declaring_a_missing_name_is_exact` — so a group or a target with nothing in it removes just the
  defects that asked for it.
-/

namespace BuildSpec

/-- The target that a defect says is missing. -/
def Defect.missingTarget? : Defect → Option String
  | invalidTargetDependency _ name | invalidTargetSchemeTest _ name | invalidSchemeTarget _ name =>
    some name
  | _ => none

/-- Whether a finding is a defect of some kind whatever the answers about paths. -/
def Finding.isDefect (kind : Defect → Bool) : Finding → Bool
  | .defect d => kind d
  | .path _ _ | .ring _ => false

namespace ProjectSpec

/-- A spec with other configurations. -/
def withConfigs (spec : ProjectSpec) (configs : List Config) : ProjectSpec := { spec with configs }

/-- A spec with other setting groups. -/
def withGroups (spec : ProjectSpec) (settingGroups : List (String × Settings)) : ProjectSpec :=
  { spec with settingGroups }

/-- A spec with other targets. -/
def withTargets (spec : ProjectSpec) (targets : List Target) : ProjectSpec := { spec with targets }

variable {spec other : ProjectSpec}

/-! ## More names and more files -/

/-- A name that leads somewhere does so too where there are more configurations and targets. -/
theorem resolves_of_more {pathExists : Path → String → Bool} {r : Reference}
    (hconfigs : spec.configs ⊆ other.configs)
    (htargets : spec.targets.map Target.name ⊆ other.targets.map Target.name)
    (hname : r.path? = none) (h : r.Resolves spec pathExists) : r.Resolves other pathExists := by
  have hconfig : ∀ p : Config → Prop, (∃ c ∈ spec.configs, p c) → ∃ c ∈ other.configs, p c :=
    fun p ⟨c, hc, hp⟩ => ⟨c, hconfigs hc, hp⟩
  have htarget : ∀ name, (∃ t ∈ spec.targets, t.name = name) →
      ∃ t ∈ other.targets, t.name = name := by
    intro name h
    rw [← List.mem_map] at h ⊢
    exact htargets h
  cases r with
  | configFileName | action | variant | generated => exact hconfig _ h
  | dependency | testTarget | buildTarget => exact htarget _ h
  | fileGroup | configFile | source | script => cases hname

/-- In a spec with more configurations and targets a reference comes to the same, or to nothing. -/
theorem referenceFindings_sublist (hbase : other.basePath = spec.basePath)
    (hconfigs : spec.configs ⊆ other.configs)
    (htargets : spec.targets.map Target.name ⊆ other.targets.map Target.name) (r : Reference) :
    (other.referenceFindings r).Sublist (spec.referenceFindings r) := by
  cases hpath : r.path? with
  | some path => rw [referenceFindings_of_path? hpath, referenceFindings_of_path? hpath, hbase]
  | none =>
      rw [referenceFindings_of_path?_eq_none hpath, referenceFindings_of_path?_eq_none hpath, hbase]
      by_cases hres : r.Resolves spec fun _ _ => true
      · have hmore := resolves_of_more hconfigs htargets hpath hres
        rw [if_pos hmore, if_pos hres]
      · rw [if_neg hres]
        split
        · exact List.nil_sublist _
        · exact List.Sublist.refl _

theorem mentionsConfig_of_more (hconfigs : spec.configs ⊆ other.configs) {fragment : String}
    (h : spec.mentionsConfig fragment = true) : other.mentionsConfig fragment = true := by
  obtain ⟨c, hc, hmatch⟩ := mentionsConfig_iff.mp h
  exact mentionsConfig_iff.mpr ⟨c, hconfigs hc, hmatch⟩

theorem configSettingsFindings_sublist (hconfigs : spec.configs ⊆ other.configs) (s : Settings) :
    (other.configSettingsFindings s).Sublist (spec.configSettingsFindings s) := by
  apply List.Sublist.map
  apply List.monotone_filter_right
  intro e hunmatched
  by_contra hmatched
  have hmentioned : spec.mentionsConfig e.1 = true := by simpa using hmatched
  simp [mentionsConfig_of_more hconfigs hmentioned] at hunmatched

/-- With more configurations, a walk through the same groups comes upon the same things in the same
order, apart from configurations that nothing mentioned. -/
theorem settingsFindings_sublist (hgroups : other.settingGroups = spec.settingGroups)
    (hconfigs : spec.configs ⊆ other.configs) (entered : List String) (s : Settings) :
    (other.settingsFindings entered s).Sublist (spec.settingsFindings entered s) := by
  have hsame : ∀ group, other.group? group = spec.group? group := by
    intro group
    rw [group?, group?, hgroups]
  induction entered, s using settingsFindings.induct spec with
  | case1 entered s ih =>
      rw [settingsFindings_eq, settingsFindings_eq]
      apply List.Sublist.append
      · apply List.Sublist.flatMap_right
        intro group _
        refine groupFindings_related (R := fun l m => m.Sublist l) (List.Sublist.refl _) ?_ ?_
        · intro hmissing
          simp [groupFindings, hsame, hmissing]
        · intro content hdeclared
          exact ⟨content, (hsame group).trans hdeclared, ih group content hdeclared⟩
      · exact configSettingsFindings_sublist hconfigs s

/-- A walk depends on nothing but groups and configurations. -/
theorem settingsFindings_congr (hgroups : other.settingGroups = spec.settingGroups)
    (hconfigs : other.configs = spec.configs) (entered : List String) (s : Settings) :
    other.settingsFindings entered s = spec.settingsFindings entered s := by
  have hmore : (other.settingsFindings entered s).Sublist (spec.settingsFindings entered s) :=
    settingsFindings_sublist hgroups (hconfigs ▸ List.Subset.refl _) entered s
  have hless : (spec.settingsFindings entered s).Sublist (other.settingsFindings entered s) :=
    settingsFindings_sublist hgroups.symm (hconfigs ▸ List.Subset.refl _) entered s
  exact hmore.antisymm hless

/-- With more configurations the audit comes upon the same things in the same order, apart from some
names that led nowhere. -/
theorem findings_sublist {more : List Config} (hconfigs : spec.configs ⊆ more) :
    (spec.withConfigs more).findings.Sublist spec.findings := by
  have hbase : (spec.withConfigs more).basePath = spec.basePath := rfl
  have hreferences : ∀ references : List Reference,
      (references.flatMap (spec.withConfigs more).referenceFindings).Sublist
        (references.flatMap spec.referenceFindings) := by
    intro references
    apply List.Sublist.flatMap_right
    intro r _
    exact referenceFindings_sublist hbase hconfigs (List.Subset.refl _) r
  have hwalk : ∀ entered s, ((spec.withConfigs more).settingsFindings entered s).Sublist
      (spec.settingsFindings entered s) := settingsFindings_sublist rfl hconfigs
  rw [findings_eq, findings_eq]
  refine (((((hwalk [] _).append (hreferences _)).append (hreferences _)).append ?_).append
    ?_).append ?_
  · exact List.Sublist.flatMap_right _ fun g _ => hwalk [g.1] g.2
  · exact List.Sublist.flatMap_right _ fun t _ => (hreferences _).append (hwalk [] t.settings)
  · exact List.Sublist.flatMap_right _ fun s _ => hreferences _

/-- Of the same findings, fewer are defects if more paths lead somewhere. -/
theorem filterMap_defect?_sublist {p q : String → Bool}
    (hpaths : ∀ path, p path = true → q path = true) (findings : List Finding) :
    (findings.filterMap (Finding.defect? q)).Sublist
      (findings.filterMap (Finding.defect? p)) := by
  induction findings with
  | nil => exact List.Sublist.refl _
  | cons f rest ih =>
      cases f with
      | defect d => exact ih.cons_cons d
      | ring chain => exact ih
      | path path d =>
          by_cases hp : p path = true
          · simpa [Finding.defect?, hp, hpaths path hp] using ih
          · by_cases hq : q path = true
            · simpa [Finding.defect?, hp, hq] using ih.cons d
            · simpa [Finding.defect?, hp, hq] using ih.cons_cons d

/-- **Declaring configurations and creating files never adds a defect.**  What is reported then is a
part of what was reported before, in the same order. -/
theorem defects_sublist_of_growth (spec : ProjectSpec) (more : List Config)
    (p q : Path → String → Bool) (hconfigs : ∀ c ∈ spec.configs, c ∈ more)
    (hpaths : ∀ base path, p base path = true → q base path = true) :
    ((spec.withConfigs more).defects (q spec.basePath)).Sublist
      (spec.defects (p spec.basePath)) := by
  have hfindings : (spec.withConfigs more).findings.Sublist spec.findings :=
    findings_sublist hconfigs
  have hfiles := filterMap_defect?_sublist (hpaths spec.basePath) spec.findings
  exact (hfindings.filterMap _).trans hfiles

/-- A spec that is short of a configuration, of a group and of a target, with groups in a ring. -/
def sparseSpec : ProjectSpec :=
  { (default : ProjectSpec) with
    configs := [⟨"Debug", .debug⟩]
    settingGroups := [("App", ⟨[], ["Tools", "Base"], []⟩), ("Tools", ⟨[], ["App"], []⟩)]
    settings := ⟨[], ["Base", "App"], [("Release", .none)]⟩
    targets := [{ Target.named "App" with
      sources := ["src"]
      dependencies := [⟨.target, "Kit"⟩]
      scheme := some ⟨["Release"], ["Kit"]⟩ }] }

/-- With the other configuration and the sources at their place, a part of its defects is left. -/
theorem sparseSpec_with_configs_and_sources :
    sparseSpec.configs = [⟨"Debug", .debug⟩] ∧
      ((sparseSpec.withConfigs Config.defaults).defects fun path => path == "src").Sublist
        (sparseSpec.defects fun _ => false) := by
  refine ⟨rfl, defects_sublist_of_growth sparseSpec Config.defaults (fun _ _ => false)
    (fun _ path => path == "src") ?_ ?_⟩
  · intro c hc
    rw [List.mem_singleton.mp hc]
    exact List.mem_cons_self
  · intro base path h
    cases h

/-! ## A missing name is declared -/

variable {gone : Defect → Bool}

/-- If a spec resolves what another one does and what some defects say is missing, then its
references come to the same without these defects. -/
theorem referenceFindings_eq_filter (hbase : other.basePath = spec.basePath)
    (hresolves : ∀ r : Reference, r.path? = none →
      (r.Resolves other (fun _ _ => true) ↔
        r.Resolves spec (fun _ _ => true) ∨ gone (r.defect spec.basePath) = true))
    (r : Reference) :
    other.referenceFindings r = (spec.referenceFindings r).filter fun f => !f.isDefect gone := by
  cases hpath : r.path? with
  | some path =>
      rw [referenceFindings_of_path? hpath, referenceFindings_of_path? hpath, hbase]
      rfl
  | none =>
      rw [referenceFindings_of_path?_eq_none hpath, referenceFindings_of_path?_eq_none hpath, hbase]
      by_cases hres : r.Resolves spec fun _ _ => true
      · simp [hresolves r hpath, hres]
      · by_cases hgone : gone (r.defect spec.basePath) = true
        · simp [hresolves r hpath, hres, hgone, Finding.isDefect]
        · simp [hresolves r hpath, hres, hgone, Finding.isDefect]

/-- The findings of a spec that differs from another one in groups and targets without anything in
them, if walks and references come to the same but for some defects. -/
theorem findings_eq_filter
    (hparts : other.settings = spec.settings ∧ other.fileGroups = spec.fileGroups ∧
      other.configFiles = spec.configFiles ∧ other.schemes = spec.schemes)
    (hreferences : ∀ r, other.referenceFindings r =
      (spec.referenceFindings r).filter fun f => !f.isDefect gone)
    (hwalk : ∀ entered s, (∀ group ∈ entered, spec.DeclaresGroup group) →
      other.settingsFindings entered s =
        (spec.settingsFindings entered s).filter fun f => !f.isDefect gone)
    (hgroups : other.settingGroups.flatMap (fun g => other.settingsFindings [g.1] g.2) =
      spec.settingGroups.flatMap fun g => other.settingsFindings [g.1] g.2)
    (htargets : other.targets.flatMap other.targetFindings =
      spec.targets.flatMap other.targetFindings) :
    other.findings = spec.findings.filter fun f => !f.isDefect gone := by
  obtain ⟨hsettings, hfileGroups, hconfigFiles, hschemes⟩ := hparts
  have hall : ∀ references : List Reference, references.flatMap other.referenceFindings =
      (references.flatMap spec.referenceFindings).filter fun f => !f.isDefect gone := by
    intro references
    rw [List.filter_flatMap, funext hreferences]
  have hstart : ∀ s, other.settingsFindings [] s =
      (spec.settingsFindings [] s).filter fun f => !f.isDefect gone :=
    fun s => hwalk [] s fun _ h => absurd h List.not_mem_nil
  have hgroup : ∀ g ∈ spec.settingGroups, other.settingsFindings [g.1] g.2 =
      (spec.settingsFindings [g.1] g.2).filter fun f => !f.isDefect gone := by
    intro g hg
    apply hwalk
    intro group hgroup
    rw [List.mem_singleton.mp hgroup]
    exact List.mem_map_of_mem hg
  have htarget : ∀ t, other.targetFindings t =
      (spec.targetFindings t).filter fun f => !f.isDefect gone := by
    intro t
    rw [targetFindings_eq, targetFindings_eq, hall, hstart, List.filter_append]
  have hscheme : ∀ s, other.schemeFindings s =
      (spec.schemeFindings s).filter fun f => !f.isDefect gone := by
    intro s
    rw [schemeFindings_eq, schemeFindings_eq, hall]
  rw [findings_eq, findings_eq]
  simp only [← targetFindings_eq, ← schemeFindings_eq]
  rw [hgroups, htargets, hsettings, hfileGroups, hconfigFiles, hschemes, hstart, hall, hall,
    List.flatMap_congr hgroup, funext htarget, funext hscheme]
  simp only [List.filter_append, List.filter_flatMap]

/-- Without some defects among the findings, the audit reports the same without these defects. -/
theorem defects_eq_filter (hgone : ∀ d, gone d = true → d.isAboutPath = false)
    (hfindings : other.findings = spec.findings.filter fun f => !f.isDefect gone)
    (pathExists : String → Bool) :
    other.defects pathExists = (spec.defects pathExists).filter fun d => !gone d := by
  rw [defects, defects, hfindings, List.filterMap_filter, List.filter_filterMap]
  apply List.filterMap_congr
  intro f hf
  have hsorted := isSorted_of_mem_findings spec hf
  cases f with
  | defect d =>
      by_cases hd : gone d = true <;> simp [Finding.isDefect, Finding.defect?, Option.filter, hd]
  | ring chain => rfl
  | path path d =>
      have hd : gone d ≠ true := by
        intro h
        have habout : d.isAboutPath = true := hsorted
        rw [hgone d h] at habout
        cases habout
      by_cases hp : pathExists path = true <;>
        simp [Finding.isDefect, Finding.defect?, Option.filter, hd, hp]

/-! ## A missing group -/

/-- There is nothing to find in settings that set nothing. -/
theorem settingsFindings_none (spec : ProjectSpec) (entered : List String) :
    spec.settingsFindings entered .none = [] := by
  rw [settingsFindings_eq]
  rfl

theorem configSettingsFindings_congr (hconfigs : other.configs = spec.configs) (s : Settings) :
    other.configSettingsFindings s = spec.configSettingsFindings s := by
  have hmentions : other.mentionsConfig = spec.mentionsConfig := by
    funext fragment
    rw [mentionsConfig, mentionsConfig, hconfigs]
  rw [configSettingsFindings, configSettingsFindings, hmentions]

/-- Where a walk found a group missing, it finds nothing if there is such a group with nothing in it;
otherwise it goes the same way. -/
theorem settingsFindings_eq_filter {group : String} (hconfigs : other.configs = spec.configs)
    (hmissing : ¬ spec.DeclaresGroup group) (hadded : other.group? group = some .none)
    (hothers : ∀ name, name ≠ group → other.group? name = spec.group? name)
    (entered : List String) (s : Settings) (hfresh : group ∉ entered) :
    other.settingsFindings entered s =
      (spec.settingsFindings entered s).filter
        fun f => !f.isDefect fun d => d = .invalidSettingsGroup group := by
  -- the walk never comes back to the group, as nothing is entered from there
  induction entered, s using settingsFindings.induct spec with
  | case1 entered s ih =>
      rw [settingsFindings_eq, settingsFindings_eq, List.filter_append, List.filter_flatMap,
        configSettingsFindings_congr hconfigs]
      congr 1
      · apply List.flatMap_congr
        intro name _
        refine groupFindings_related (R := fun l m => m = l.filter _) rfl ?_ ?_
        · intro hundeclared
          by_cases hname : name = group
          · rw [hname, groupFindings_of_fresh hadded hfresh, settingsFindings_none]
            simp [Finding.isDefect]
          · simp [groupFindings, hothers name hname, hundeclared, Finding.isDefect, hname]
        · intro content hdeclared
          have hname : name ≠ group := by
            rintro rfl
            exact hmissing (declaresGroup_of_group? hdeclared)
          refine ⟨content, (hothers name hname).trans hdeclared, fun hentered => ?_⟩
          apply ih name content hdeclared hentered
          simp [hfresh, Ne.symm hname]
      · symm
        rw [List.filter_eq_self]
        intro f hf
        obtain ⟨_, _, _, rfl⟩ := mem_configSettingsFindings_iff.mp hf
        simp [Finding.isDefect]

/-- A group that is added is found, and hides no other one. -/
theorem group?_withGroups_insert {before after : List (String × Settings)} {group : String}
    (hparts : spec.settingGroups = before ++ after) (hmissing : ¬ spec.DeclaresGroup group)
    (content : Settings) (name : String) :
    (spec.withGroups (before ++ (group, content) :: after)).group? name =
      if name = group then some content else spec.group? name := by
  have hbefore : before.lookup group = none := by
    have hnone := group?_eq_none_iff.mpr hmissing
    rw [group?, hparts, List.lookup_append, Option.or_eq_none_iff] at hnone
    exact hnone.1
  rw [group?, group?, hparts, withGroups, List.lookup_append, List.lookup_append, List.lookup_cons]
  by_cases hname : name = group
  · simp [hname, hbefore]
  · have hne : (name == group) = false := beq_eq_false_iff_ne.mpr hname
    simp [hname, hne]

/-- What the audit comes upon after a missing group has been added with nothing in it. -/
theorem findings_withGroups_insert {before after : List (String × Settings)} {group : String}
    (hparts : spec.settingGroups = before ++ after) (hmissing : ¬ spec.DeclaresGroup group) :
    (spec.withGroups (before ++ (group, .none) :: after)).findings =
      spec.findings.filter fun f => !f.isDefect fun d => d = .invalidSettingsGroup group := by
  have hlookup := group?_withGroups_insert hparts hmissing .none
  have hbase : (spec.withGroups (before ++ (group, .none) :: after)).basePath = spec.basePath := rfl
  have hconfigs : (spec.withGroups (before ++ (group, .none) :: after)).configs = spec.configs := rfl
  refine findings_eq_filter ⟨rfl, rfl, rfl, rfl⟩ ?_ ?_ ?_ rfl
  · apply referenceFindings_eq_filter hbase
    intro r hname
    have hgone : r.defect spec.basePath ≠ .invalidSettingsGroup group := by
      intro h
      have habout := r.isAboutSettings_defect spec.basePath
      rw [h] at habout
      cases habout
    simp only [hgone, decide_false, Bool.false_eq_true, or_false]
    cases r <;> exact Iff.rfl
  · intro entered s hentered
    have hfresh : group ∉ entered := fun h => hmissing (hentered group h)
    apply settingsFindings_eq_filter hconfigs hmissing _ _ entered s hfresh
    · simp [hlookup]
    · intro name hname
      simp [hlookup, hname]
  · simp [withGroups, hparts, settingsFindings_none]

/-! ## A missing target -/

/-- A target with nothing but a name has nothing to find. -/
theorem targetFindings_named (spec : ProjectSpec) (name : String) :
    spec.targetFindings (.named name) = [] := by
  have hsettings : (Target.named name).settings = .none := rfl
  rw [targetFindings, hsettings, settingsFindings_none]
  rfl

/-- The defects of a walk through settings say of no target that it is missing. -/
theorem isDefect_missingTarget?_of_mem {entered : List String} {s : Settings} {f : Finding}
    (hf : f ∈ spec.settingsFindings entered s) (name : String) :
    f.isDefect (fun d => d.missingTarget? = some name) = false := by
  cases f with
  | defect d =>
      obtain ⟨_, _, _, _, hflaw⟩ := defect_mem_settingsFindings_iff.mp hf
      cases hflaw <;> rfl
  | path path d => rfl
  | ring chain => rfl

/-- A target that is added is found, and hides no other one. -/
theorem resolves_withTargets_insert {before after : List Target} {name : String}
    (hparts : spec.targets = before ++ after) (pathExists : Path → String → Bool) {r : Reference}
    (hname : r.path? = none) :
    r.Resolves (spec.withTargets (before ++ .named name :: after)) pathExists ↔
      r.Resolves spec pathExists ∨ (r.defect spec.basePath).missingTarget? = some name := by
  have htarget : ∀ wanted, (∃ t ∈ before ++ .named name :: after, t.name = wanted) ↔
      (∃ t ∈ spec.targets, t.name = wanted) ∨ some wanted = some name := by
    intro wanted
    have hnamed : (Target.named name).name = name := rfl
    simp only [hparts, List.mem_append, List.mem_cons, or_and_right, exists_or, exists_eq_left,
      hnamed, Option.some.injEq, eq_comm]
    rw [or_left_comm, or_comm]
  cases r with
  | dependency | testTarget | buildTarget => exact htarget _
  | configFileName | action | variant | generated => exact (or_iff_left nofun).symm
  | fileGroup | configFile | source | script => cases hname

/-- What the audit comes upon after a missing target has been added with nothing in it. -/
theorem findings_withTargets_insert {before after : List Target} (name : String)
    (hparts : spec.targets = before ++ after) :
    (spec.withTargets (before ++ .named name :: after)).findings =
      spec.findings.filter fun f => !f.isDefect fun d => d.missingTarget? = some name := by
  have hbase : (spec.withTargets (before ++ .named name :: after)).basePath = spec.basePath := rfl
  have hgroups : (spec.withTargets (before ++ .named name :: after)).settingGroups =
    spec.settingGroups := rfl
  refine findings_eq_filter ⟨rfl, rfl, rfl, rfl⟩ ?_ ?_ rfl ?_
  · apply referenceFindings_eq_filter hbase
    intro r hname
    simpa using resolves_withTargets_insert hparts _ hname
  · intro entered s _
    rw [settingsFindings_congr hgroups rfl, eq_comm, List.filter_eq_self]
    intro f hf
    simp [isDefect_missingTarget?_of_mem hf]
  · simp [withTargets, hparts, targetFindings_named]

/-- **Declaring a missing name is an exact repair.**  A group that was missing, added anywhere with
nothing in it, takes away the defects that asked for it; so does a target.  All other defects stay,
as often as they were and in their order, and there are no new ones. -/
theorem declaring_a_missing_name_is_exact (spec : ProjectSpec)
    (pathExists : Path → String → Bool) :
    (∀ (group : String) (before after : List (String × Settings)),
      ¬ spec.DeclaresGroup group → spec.settingGroups = before ++ after →
        (spec.withGroups (before ++ (group, .none) :: after)).defects (pathExists spec.basePath) =
          (spec.defects (pathExists spec.basePath)).filter
            fun d => d ≠ .invalidSettingsGroup group) ∧
    ∀ (name : String) (before after : List Target), spec.targets = before ++ after →
      (spec.withTargets (before ++ .named name :: after)).defects (pathExists spec.basePath) =
        (spec.defects (pathExists spec.basePath)).filter
          fun d => d.missingTarget? ≠ some name := by
  constructor
  · intro group before after hmissing hparts
    have hgone : ∀ d : Defect, decide (d = .invalidSettingsGroup group) = true →
        d.isAboutPath = false := by
      intro d hd
      rw [of_decide_eq_true hd]
      rfl
    simpa using defects_eq_filter hgone (findings_withGroups_insert hparts hmissing) _
  · intro name before after hparts
    have hgone : ∀ d : Defect, decide (d.missingTarget? = some name) = true →
        d.isAboutPath = false := by
      intro d hd
      cases d <;> simp_all [Defect.missingTarget?, Defect.isAboutPath]
    simpa using defects_eq_filter hgone (findings_withTargets_insert name hparts) _

/-- The group that the spec and a ring of groups ask for, put into the ring, and the target that a
target depends on and tests. -/
theorem sparseSpec_repaired :
    ¬ sparseSpec.DeclaresGroup "Base" ∧
      (sparseSpec.withGroups [("App", ⟨[], ["Tools", "Base"], []⟩), ("Base", .none),
          ("Tools", ⟨[], ["App"], []⟩)]).defects (fun _ => false) =
        (sparseSpec.defects fun _ => false).filter (fun d => d ≠ .invalidSettingsGroup "Base") ∧
      (sparseSpec.withTargets (sparseSpec.targets ++ [.named "Kit"])).defects (fun _ => false) =
        (sparseSpec.defects fun _ => false).filter fun d => d.missingTarget? ≠ some "Kit" := by
  have hmissing : ¬ sparseSpec.DeclaresGroup "Base" := by simp [DeclaresGroup, sparseSpec]
  obtain ⟨hgroup, htarget⟩ := declaring_a_missing_name_is_exact sparseSpec fun _ _ => false
  refine ⟨hmissing, ?_, ?_⟩
  · exact hgroup "Base" [("App", ⟨[], ["Tools", "Base"], []⟩)] [("Tools", ⟨[], ["App"], []⟩)]
      hmissing rfl
  · exact htarget "Kit" sparseSpec.targets [] (List.append_nil _).symm

end ProjectSpec

end BuildSpec
