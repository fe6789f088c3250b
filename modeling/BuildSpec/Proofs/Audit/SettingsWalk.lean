import BuildSpec.Proofs.Table
import BuildSpec.Spec.Audit
import Mathlib.Data.Set.Basic
import Mathlib.Logic.Relation

/-!
# The walk through included settings

Settings include groups by name, and the groups include others in turn, in rings if the author of
the spec so wishes.  The audit enters a group unless it stands on the way by which the walk came.
This file shows that the cut costs nothing:

* `Route.avoid` — whatever can be reached from a group by some route can be reached from it by a
  route that does not come through the group again;
* `defect_mem_settingsFindings_iff` — a walk reports the flaws of exactly those settings to which a
  route leads that avoids the groups on the way;
* `settingsDefects_eq_reachable_flaws` — so the walks that an audit starts report the flaws of
  everything reachable, by any number of inclusions.
-/

namespace BuildSpec.ProjectSpec

variable (spec : ProjectSpec)

/-- A name of a setting group. -/
def DeclaresGroup (group : String) : Prop := group ∈ spec.settingGroups.map Prod.fst

/-- No two setting groups have one name. -/
def DistinctGroups : Prop := (spec.settingGroups.map Prod.fst).Nodup

/-- A configuration has a name that contains the text, upper and lower case being one. -/
def MentionsConfig (fragment : String) : Prop :=
  ∃ c ∈ spec.configs, (Text.lower fragment).toList <:+: (Text.lower c.name).toList

/-- What is wrong with settings themselves, whatever is wrong with the groups that they include. -/
inductive Flaw (s : Settings) : Defect → Prop where
  | group {group : String} (hmem : group ∈ s.groups) (hundeclared : ¬ spec.DeclaresGroup group) :
      Flaw s (.invalidSettingsGroup group)
  | config {config : String} (hmem : config ∈ s.configSettings.map Prod.fst)
      (hunmatched : ¬ spec.MentionsConfig config) :
      Flaw s (.invalidBuildSettingConfig config)

/-- The first settings name a group that consists of the second ones. -/
def Includes (s t : Settings) : Prop := ∃ group ∈ s.groups, spec.group? group = some t

/-- Settings that can be reached by any number of inclusions, none among them. -/
def Reaches : Settings → Settings → Prop := Relation.ReflTransGen spec.Includes

/-- A way from settings to settings, given by the names of the groups that are entered. -/
inductive Route : Settings → List String → Settings → Prop
  | here (s : Settings) : Route s [] s
  | enter {s included t : Settings} {group : String} {route : List String}
      (hmem : group ∈ s.groups) (hdeclared : spec.group? group = some included)
      (onward : Route included route t) :
      Route s (group :: route) t

/-- The defects that a walk through settings reports. -/
def settingsDefects (pathExists : String → Bool) (entered : List String) (s : Settings) :
    List Defect :=
  (spec.settingsFindings entered s).filterMap (Finding.defect? pathExists)

/-! ## Names -/

variable {spec}

theorem mentionsConfig_iff {fragment : String} :
    spec.mentionsConfig fragment = true ↔ spec.MentionsConfig fragment := by
  simp [mentionsConfig, MentionsConfig, Text.occursIn_iff]

theorem group?_eq_none_iff {group : String} :
    spec.group? group = none ↔ ¬ spec.DeclaresGroup group := by
  rw [group?, List.lookup_eq_none_iff, DeclaresGroup, List.mem_map]
  constructor
  · rintro h ⟨e, he, rfl⟩
    simpa using h e he
  · intro h e he
    simpa using fun heq : group = e.1 => h ⟨e, he, heq.symm⟩

theorem declaresGroup_of_group? {group : String} {content : Settings}
    (h : spec.group? group = some content) : spec.DeclaresGroup group := by
  by_contra hmissing
  rw [group?_eq_none_iff.mpr hmissing] at h
  cases h

/-- With distinct names, every group is found under its name. -/
theorem group?_eq_some_iff (hdistinct : spec.DistinctGroups) {group : String}
    {content : Settings} :
    spec.group? group = some content ↔ (group, content) ∈ spec.settingGroups :=
  Table.lookup_eq_some_iff_mem hdistinct

/-! ## Routes -/

/-- Routes are the inclusions of a reachability proof, with their names. -/
theorem reaches_iff_exists_route {s t : Settings} :
    spec.Reaches s t ↔ ∃ route, spec.Route s route t := by
  constructor
  · intro h
    induction h using Relation.ReflTransGen.head_induction_on with
    | refl => exact ⟨[], Route.here t⟩
    | head hstep _ ih =>
        obtain ⟨group, hmem, hdeclared⟩ := hstep
        obtain ⟨route, hroute⟩ := ih
        exact ⟨group :: route, Route.enter hmem hdeclared hroute⟩
  · rintro ⟨route, hroute⟩
    induction hroute with
    | here s => exact Relation.ReflTransGen.refl
    | enter hmem hdeclared _ ih => exact Relation.ReflTransGen.head ⟨_, hmem, hdeclared⟩ ih

/-- A route that comes through a group can be left out up to its last visit there: the rest of it
starts in the group and avoids it. -/
theorem Route.avoid_or {s t content : Settings} {group : String} {route : List String}
    (hroute : spec.Route s route t) (hgroup : spec.group? group = some content) :
    group ∉ route ∨
      ∃ rest, spec.Route content rest t ∧ group ∉ rest ∧ ∀ name ∈ rest, name ∈ route := by
  induction hroute with
  | here s => exact Or.inl List.not_mem_nil
  | @enter s included t name route hmem hdeclared onward ih =>
      rcases ih with hnot | ⟨rest, hrest, hnot, hsub⟩
      · by_cases heq : group = name
        · subst heq
          have hcontent : content = included := Option.some.inj (hgroup.symm.trans hdeclared)
          subst hcontent
          exact Or.inr ⟨route, onward, hnot, fun n hn => List.mem_cons_of_mem _ hn⟩
        · exact Or.inl (by simp [heq, hnot])
      · exact Or.inr ⟨rest, hrest, hnot, fun n hn => List.mem_cons_of_mem _ (hsub n hn)⟩

/-- Whatever can be reached from a group can be reached without coming back to the group. -/
theorem Route.avoid {t content : Settings} {group : String} {route : List String}
    (hroute : spec.Route content route t) (hgroup : spec.group? group = some content) :
    ∃ rest, spec.Route content rest t ∧ group ∉ rest ∧ ∀ name ∈ rest, name ∈ route := by
  rcases hroute.avoid_or hgroup with hnot | hrest
  · exact ⟨route, hroute, hnot, fun _ hn => hn⟩
  · exact hrest

/-! ## The walk -/

/-- The findings that come of naming a group in settings. -/
def groupFindings (spec : ProjectSpec) (entered : List String) (group : String) : List Finding :=
  match spec.group? group with
  | none => [.defect (.invalidSettingsGroup group)]
  | some included =>
    if group ∈ entered then [.ring (entered ++ [group])]
    else spec.settingsFindings (entered ++ [group]) included

/-- One step of the walk. -/
theorem settingsFindings_eq (entered : List String) (s : Settings) :
    spec.settingsFindings entered s
      = s.groups.flatMap (spec.groupFindings entered) ++ spec.configSettingsFindings s := by
  rw [settingsFindings]
  congr 2
  funext group
  unfold groupFindings
  split <;> rename_i h <;> simp [h]

theorem groupFindings_of_undeclared {group : String} (h : ¬ spec.DeclaresGroup group)
    (entered : List String) :
    spec.groupFindings entered group = [.defect (.invalidSettingsGroup group)] := by
  simp [groupFindings, group?_eq_none_iff.mpr h]

theorem groupFindings_of_entered {group : String} {content : Settings} {entered : List String}
    (hdeclared : spec.group? group = some content) (hentered : group ∈ entered) :
    spec.groupFindings entered group = [.ring (entered ++ [group])] := by
  simp [groupFindings, hdeclared, hentered]

theorem groupFindings_of_fresh {group : String} {content : Settings} {entered : List String}
    (hdeclared : spec.group? group = some content) (hfresh : group ∉ entered) :
    spec.groupFindings entered group = spec.settingsFindings (entered ++ [group]) content := by
  simp [groupFindings, hdeclared, hfresh]

/-- What naming a group comes to: a defect, a ring, or the findings of the group's settings. -/
theorem mem_groupFindings_iff {entered : List String} {group : String} {f : Finding} :
    f ∈ spec.groupFindings entered group ↔
      (¬ spec.DeclaresGroup group ∧ f = .defect (.invalidSettingsGroup group)) ∨
      ∃ content, spec.group? group = some content ∧
        ((group ∈ entered ∧ f = .ring (entered ++ [group])) ∨
          (group ∉ entered ∧ f ∈ spec.settingsFindings (entered ++ [group]) content)) := by
  cases hdeclared : spec.group? group with
  | none => simp [groupFindings, hdeclared, group?_eq_none_iff.mp hdeclared]
  | some content =>
      have hknown : spec.DeclaresGroup group := declaresGroup_of_group? hdeclared
      by_cases hentered : group ∈ entered
      · simp [groupFindings_of_entered hdeclared hentered, hknown, hentered]
      · simp [groupFindings_of_fresh hdeclared hentered, hknown, hentered]

/-- Two walks side by side: naming a group comes to related findings, if it does so where the first
walk finds no such group, and if the walks go on into the group with related findings. -/
theorem groupFindings_related {other : ProjectSpec} {R : List Finding → List Finding → Prop}
    {entered : List String} {group : String}
    (hring : R [.ring (entered ++ [group])] [.ring (entered ++ [group])])
    (hundeclared : spec.group? group = none →
      R [.defect (.invalidSettingsGroup group)] (other.groupFindings entered group))
    (hdeclared : ∀ content, spec.group? group = some content →
      ∃ content', other.group? group = some content' ∧
        (group ∉ entered → R (spec.settingsFindings (entered ++ [group]) content)
          (other.settingsFindings (entered ++ [group]) content'))) :
    R (spec.groupFindings entered group) (other.groupFindings entered group) := by
  cases hspec : spec.group? group with
  | none =>
      rw [groupFindings_of_undeclared (group?_eq_none_iff.mp hspec)]
      exact hundeclared hspec
  | some content =>
      obtain ⟨content', hother, hinside⟩ := hdeclared content hspec
      by_cases hentered : group ∈ entered
      · rw [groupFindings_of_entered hspec hentered, groupFindings_of_entered hother hentered]
        exact hring
      · rw [groupFindings_of_fresh hspec hentered, groupFindings_of_fresh hother hentered]
        exact hinside hentered

theorem mem_configSettingsFindings_iff {s : Settings} {f : Finding} :
    f ∈ spec.configSettingsFindings s ↔
      ∃ config ∈ s.configSettings.map Prod.fst, ¬ spec.MentionsConfig config ∧
        f = .defect (.invalidBuildSettingConfig config) := by
  simp only [configSettingsFindings, List.mem_map, List.mem_filter, ← mentionsConfig_iff]
  constructor
  · rintro ⟨e, ⟨he, hunmatched⟩, rfl⟩
    exact ⟨e.1, ⟨e, he, rfl⟩, by simpa using hunmatched, rfl⟩
  · rintro ⟨_, ⟨e, he, rfl⟩, hunmatched, rfl⟩
    exact ⟨e, ⟨he, by simpa using hunmatched⟩, rfl⟩

/-- A walk asks about no path. -/
theorem path_notMem_settingsFindings (path : String) (d : Defect) (entered : List String)
    (s : Settings) : .path path d ∉ spec.settingsFindings entered s := by
  induction entered, s using settingsFindings.induct spec with
  | case1 entered s ih =>
      rw [settingsFindings_eq, List.mem_append, List.mem_flatMap]
      rintro (⟨group, -, hpath⟩ | hpath)
      · obtain ⟨-, heq⟩ | ⟨content, hdeclared, ⟨-, heq⟩ | ⟨hfresh, hpath⟩⟩ :=
          mem_groupFindings_iff.mp hpath
        · cases heq
        · cases heq
        · exact ih group content hdeclared hfresh hpath
      · obtain ⟨_, _, _, heq⟩ := mem_configSettingsFindings_iff.mp hpath
        cases heq

/-- Settings' own flaws are found by every walk that starts there. -/
theorem Flaw.mem_settingsFindings {s : Settings} {d : Defect} (hflaw : spec.Flaw s d)
    (entered : List String) : .defect d ∈ spec.settingsFindings entered s := by
  rw [settingsFindings_eq, List.mem_append, List.mem_flatMap]
  cases hflaw with
  | @group group hmem hundeclared =>
      exact Or.inl ⟨group, hmem, by simp [groupFindings_of_undeclared hundeclared]⟩
  | config hmem hunmatched =>
      exact Or.inr (mem_configSettingsFindings_iff.mpr ⟨_, hmem, hunmatched, rfl⟩)

/-- A walk reports nothing but flaws of settings to which a route leads. -/
theorem exists_route_of_mem_settingsFindings {entered : List String} {s : Settings} {d : Defect}
    (hfound : .defect d ∈ spec.settingsFindings entered s) :
    ∃ route t, spec.Route s route t ∧ (∀ group ∈ route, group ∉ entered) ∧ spec.Flaw t d := by
  induction entered, s using settingsFindings.induct spec with
  | case1 entered s ih =>
      rw [settingsFindings_eq, List.mem_append, List.mem_flatMap] at hfound
      rcases hfound with ⟨group, hmem, hfound⟩ | hfound
      · obtain ⟨hundeclared, heq⟩ | ⟨content, hdeclared, ⟨-, heq⟩ | ⟨hfresh, hfound⟩⟩ :=
          mem_groupFindings_iff.mp hfound
        · cases heq
          exact ⟨[], s, Route.here s, by simp, Flaw.group hmem hundeclared⟩
        · cases heq
        · obtain ⟨route, t, hroute, havoid, hflaw⟩ := ih group content hdeclared hfresh hfound
          refine ⟨group :: route, t, Route.enter hmem hdeclared hroute, ?_, hflaw⟩
          intro name hname
          rcases List.mem_cons.mp hname with rfl | hname
          · exact hfresh
          · exact fun hentered => havoid name hname (List.mem_append_left _ hentered)
      · obtain ⟨config, hmem, hunmatched, heq⟩ := mem_configSettingsFindings_iff.mp hfound
        cases heq
        exact ⟨[], s, Route.here s, by simp, Flaw.config hmem hunmatched⟩

/-- A walk goes on at all settings to which a route leads that avoids the groups on the way: whatever
a walk finds there that has come through some more groups, it finds too. -/
theorem exists_walk_of_route {entered : List String} {s : Settings} :
    ∀ {route : List String} {t : Settings}, spec.Route s route t →
      (∀ group ∈ route, group ∉ entered) →
      ∃ more, spec.settingsFindings (entered ++ more) t ⊆ spec.settingsFindings entered s := by
  -- The induction is on the walk: after the first group, the rest of the route may be taken to
  -- avoid that group too, so it is one that the walk from there on covers.
  induction entered, s using settingsFindings.induct spec with
  | case1 entered s ih =>
      intro route t hroute havoid
      cases hroute with
      | here => exact ⟨[], by rw [List.append_nil]; exact List.Subset.refl _⟩
      | @enter _ content _ group route hmem hdeclared onward =>
          have hfresh : group ∉ entered := havoid group List.mem_cons_self
          obtain ⟨rest, hrest, hnot, hsub⟩ := onward.avoid hdeclared
          have hclear : ∀ name ∈ rest, name ∉ entered ++ [group] := by
            intro name hname hentered
            rcases List.mem_append.mp hentered with hold | hnew
            · exact havoid name (List.mem_cons_of_mem _ (hsub name hname)) hold
            · exact hnot (List.mem_singleton.mp hnew ▸ hname)
          obtain ⟨more, hmore⟩ := ih group content hdeclared hfresh hrest hclear
          refine ⟨group :: more, ?_⟩
          intro f hf
          rw [settingsFindings_eq, List.mem_append, List.mem_flatMap]
          refine Or.inl ⟨group, hmem, ?_⟩
          rw [groupFindings_of_fresh hdeclared hfresh]
          exact hmore (by rwa [List.append_assoc, List.singleton_append])

/-- A walk reports the flaws of all settings to which a route leads that avoids the groups on the
way. -/
theorem mem_settingsFindings_of_route {entered : List String} {s : Settings} {d : Defect}
    {route : List String} {t : Settings} (hroute : spec.Route s route t)
    (havoid : ∀ group ∈ route, group ∉ entered) (hflaw : spec.Flaw t d) :
    .defect d ∈ spec.settingsFindings entered s := by
  obtain ⟨more, hmore⟩ := exists_walk_of_route hroute havoid
  exact hmore (hflaw.mem_settingsFindings (entered ++ more))

/-- **What a walk covers.**  A walk that came through some groups reports the flaws of exactly those
settings to which a route leads that avoids these groups. -/
theorem defect_mem_settingsFindings_iff {entered : List String} {s : Settings} {d : Defect} :
    .defect d ∈ spec.settingsFindings entered s ↔
      ∃ route t, spec.Route s route t ∧ (∀ group ∈ route, group ∉ entered) ∧ spec.Flaw t d := by
  constructor
  · exact exists_route_of_mem_settingsFindings
  · rintro ⟨route, t, hroute, havoid, hflaw⟩
    exact mem_settingsFindings_of_route hroute havoid hflaw

/-! ## Defects -/

/-- The answers about paths do not matter to a walk. -/
theorem mem_settingsDefects_iff {pathExists : String → Bool} {entered : List String}
    {s : Settings} {d : Defect} :
    d ∈ spec.settingsDefects pathExists entered s ↔
      .defect d ∈ spec.settingsFindings entered s := by
  rw [settingsDefects, List.mem_filterMap]
  constructor
  · rintro ⟨f, hmem, hdefect⟩
    cases f with
    | defect e => cases hdefect; exact hmem
    | path path e => exact absurd hmem (path_notMem_settingsFindings path e entered s)
    | ring chain => cases hdefect
  · intro h
    exact ⟨.defect d, h, rfl⟩

/-- A walk that came through some groups reports the flaws of everything reachable, if everything can
be reached in a way that avoids these groups. -/
theorem mem_settingsDefects_iff_reaches {pathExists : String → Bool} {entered : List String}
    {s : Settings} {d : Defect}
    (hclear : ∀ route t, spec.Route s route t →
      ∃ rest, spec.Route s rest t ∧ ∀ name ∈ rest, name ∉ entered) :
    d ∈ spec.settingsDefects pathExists entered s ↔ ∃ t, spec.Reaches s t ∧ spec.Flaw t d := by
  rw [mem_settingsDefects_iff, defect_mem_settingsFindings_iff]
  constructor
  · rintro ⟨route, t, hroute, -, hflaw⟩
    exact ⟨t, reaches_iff_exists_route.mpr ⟨route, hroute⟩, hflaw⟩
  · rintro ⟨t, hreaches, hflaw⟩
    obtain ⟨route, hroute⟩ := reaches_iff_exists_route.mp hreaches
    obtain ⟨rest, hrest, havoid⟩ := hclear route t hroute
    exact ⟨rest, t, hrest, havoid, hflaw⟩

/-- **The cut of rings costs nothing.**  From settings of any kind, and from within any setting
group, the walk reports the flaws of all settings that can be reached by any number of inclusions,
and nothing else. -/
theorem settingsDefects_eq_reachable_flaws (spec : ProjectSpec) (pathExists : String → Bool) :
    (∀ s : Settings,
      {d | d ∈ spec.settingsDefects pathExists [] s}
        = {d | ∃ t, spec.Reaches s t ∧ spec.Flaw t d}) ∧
    ∀ (group : String) (content : Settings), spec.group? group = some content →
      {d | d ∈ spec.settingsDefects pathExists [group] content}
        = {d | ∃ t, spec.Reaches content t ∧ spec.Flaw t d} := by
  constructor
  · intro s
    ext d
    apply mem_settingsDefects_iff_reaches
    intro route t hroute
    exact ⟨route, hroute, fun _ _ => List.not_mem_nil⟩
  · intro group content hgroup
    ext d
    apply mem_settingsDefects_iff_reaches
    intro route t hroute
    obtain ⟨rest, hrest, hnot, -⟩ := hroute.avoid hgroup
    refine ⟨rest, hrest, ?_⟩
    intro name hname hentered
    exact hnot (List.mem_singleton.mp hentered ▸ hname)

/-- Two groups in a ring, one of which includes a group that is missing. -/
def ringSpec : ProjectSpec :=
  { (default : ProjectSpec) with
    settingGroups := [("App", ⟨[], ["Base"], []⟩), ("Base", ⟨[], ["App", "Gone"], []⟩)] }

/-- From within one group of the ring, the walk finds what is missing in the other. -/
theorem ringSpec_reports_missing_group :
    ringSpec.group? "App" = some ⟨[], ["Base"], []⟩ ∧
      Defect.invalidSettingsGroup "Gone"
        ∈ ringSpec.settingsDefects (fun _ => true) ["App"] ⟨[], ["Base"], []⟩ := by
  refine ⟨rfl, ?_⟩
  have hwalk :=
    (settingsDefects_eq_reachable_flaws ringSpec fun _ => true).2 "App" ⟨[], ["Base"], []⟩ rfl
  have hreaches : ringSpec.Reaches ⟨[], ["Base"], []⟩ ⟨[], ["App", "Gone"], []⟩ :=
    Relation.ReflTransGen.single ⟨"Base", by simp, rfl⟩
  have hflaw : ringSpec.Flaw ⟨[], ["App", "Gone"], []⟩ (.invalidSettingsGroup "Gone") :=
    Flaw.group (by simp) (by simp [DeclaresGroup, ringSpec])
  exact (Set.ext_iff.mp hwalk _).mpr ⟨_, hreaches, hflaw⟩

end BuildSpec.ProjectSpec
