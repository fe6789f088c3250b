import BuildSpec.Proofs.Audit.SettingsWalk
import Mathlib.Algebra.GroupWithZero.Nat
import Mathlib.Data.List.Count
import Mathlib.Data.List.Perm.Basic
import Mathlib.Data.List.Sigma

/-!
# How often a walk reports a flaw

Settings may name one group several times, and a group may be reached in several ways.  The audit
does not keep in mind what it has reported.  So a flaw is reported as often as there are ways to it
on which no group is entered twice, and every way counts by the positions of the names along it:

* `IncludeChain`, `IsSimpleChain` — the ways in question;
* `mem_simpleChains_iff`, `nodup_simpleChains` — they can be listed, each of them once;
* `settingsDefects_perm` — a walk reports what is wrong with the settings at the end of each way;
* `settingsDefects_along_simple_chains` — so the number of times that a defect is reported is the sum
  over these ways.
-/

namespace BuildSpec.ProjectSpec

variable (spec : ProjectSpec)

/-- A chain of inclusions from settings to settings: the positions of the names that are followed,
each one among the groups of the settings that have been reached, and these names. -/
inductive IncludeChain : Settings → List Nat → List String → Settings → Prop
  | here (s : Settings) : IncludeChain s [] [] s
  | enter {s included t : Settings} {i : Nat} {group : String} {positions : List Nat}
      {names : List String} (hname : s.groups[i]? = some group)
      (hdeclared : spec.group? group = some included)
      (onward : IncludeChain included positions names t) :
      IncludeChain s (i :: positions) (group :: names) t

/-- A chain that enters no group twice, and none of the groups that have been entered before. -/
def IsSimpleChain (entered : List String) (s : Settings) (positions : List Nat) (t : Settings) :
    Prop :=
  ∃ names, spec.IncludeChain s positions names t ∧ names.Nodup ∧ ∀ group ∈ names, group ∉ entered

instance (group : String) : Decidable (spec.DeclaresGroup group) :=
  inferInstanceAs (Decidable (group ∈ spec.settingGroups.map Prod.fst))

instance (fragment : String) : Decidable (spec.MentionsConfig fragment) :=
  decidable_of_iff _ mentionsConfig_iff

/-- What is wrong with settings themselves: one defect for each time that they name a group that is
missing, and one for each configuration that is not there. -/
def ownDefects (s : Settings) : List Defect :=
  (s.groups.filter fun group => ¬ spec.DeclaresGroup group).map .invalidSettingsGroup
    ++ ((s.configSettings.map Prod.fst).filter fun config => ¬ spec.MentionsConfig config).map
      .invalidBuildSettingConfig

/-- How often settings themselves have a defect. -/
def ownCount (s : Settings) : Defect → Nat
  | .invalidSettingsGroup group => if spec.DeclaresGroup group then 0 else s.groups.count group
  | .invalidBuildSettingConfig config =>
    if spec.MentionsConfig config then 0 else (s.configSettings.map Prod.fst).count config
  | _ => 0

/-- The simple chains from settings on, each with the settings at its end. -/
def simpleChains (entered : List String) (s : Settings) : List (List Nat × Settings) :=
  ([], s) :: s.groups.zipIdx.flatMap fun (group, i) =>
    match _declared : spec.group? group with
    | none => []
    | some included =>
      if _fresh : group ∈ entered then []
      else (simpleChains (entered ++ [group]) included).map fun c => (i :: c.1, c.2)
termination_by spec.openGroups entered
decreasing_by exact spec.openGroups_lt ‹_› ‹_›

variable {spec}

/-! ## The chains -/

/-- The chains that go on from the settings of a group, if it may be entered. -/
def chainsInto (spec : ProjectSpec) (entered : List String) (group : String) :
    List (List Nat × Settings) :=
  match spec.group? group with
  | none => []
  | some included =>
    if group ∈ entered then [] else spec.simpleChains (entered ++ [group]) included

/-- The chains begin with nothing or with one of the names. -/
theorem simpleChains_eq (entered : List String) (s : Settings) :
    spec.simpleChains entered s = ([], s) :: s.groups.zipIdx.flatMap fun e =>
      (spec.chainsInto entered e.1).map fun c => (e.2 :: c.1, c.2) := by
  rw [simpleChains]
  congr 2
  funext ⟨group, i⟩
  dsimp only
  unfold chainsInto
  split <;> rename_i h
  · simp [h]
  · by_cases hentered : group ∈ entered <;> simp [h, hentered]

theorem mem_chainsInto_iff {entered : List String} {group : String} {c : List Nat × Settings} :
    c ∈ spec.chainsInto entered group ↔
      ∃ content, spec.group? group = some content ∧ group ∉ entered ∧
        c ∈ spec.simpleChains (entered ++ [group]) content := by
  unfold chainsInto
  cases hdeclared : spec.group? group with
  | none => simp
  | some content => by_cases hentered : group ∈ entered <;> simp [hentered]

/-- A simple chain ends where it starts, or it enters a group and goes on as a simple chain that
does not come back there. -/
theorem isSimpleChain_iff {entered : List String} {s t : Settings} {positions : List Nat} :
    spec.IsSimpleChain entered s positions t ↔
      (positions = [] ∧ t = s) ∨
      ∃ i group content rest, positions = i :: rest ∧ s.groups[i]? = some group ∧
        spec.group? group = some content ∧ group ∉ entered ∧
        spec.IsSimpleChain (entered ++ [group]) content rest t := by
  constructor
  · rintro ⟨names, hchain, hnodup, hfresh⟩
    cases hchain with
    | here => exact Or.inl ⟨rfl, rfl⟩
    | @enter _ content _ i group rest names hname hdeclared onward =>
        obtain ⟨hnew, hnodup⟩ := List.nodup_cons.mp hnodup
        refine Or.inr ⟨i, group, content, rest, rfl, hname, hdeclared,
          hfresh group List.mem_cons_self, names, onward, hnodup, ?_⟩
        intro name hmem hentered
        rcases List.mem_append.mp hentered with hold | hlast
        · exact hfresh name (List.mem_cons_of_mem _ hmem) hold
        · exact hnew (List.mem_singleton.mp hlast ▸ hmem)
  · rintro (⟨rfl, rfl⟩ | ⟨i, group, content, rest, rfl, hname, hdeclared, hnot, names, onward,
      hnodup, hfresh⟩)
    · exact ⟨[], .here t, List.nodup_nil, fun _ hmem => by cases hmem⟩
    · refine ⟨group :: names, .enter hname hdeclared onward, List.nodup_cons.mpr ⟨?_, hnodup⟩, ?_⟩
      · intro hmem
        exact hfresh group hmem (List.mem_append_right _ (List.mem_singleton_self _))
      · intro name hmem hentered
        rcases List.mem_cons.mp hmem with rfl | hmem
        · exact hnot hentered
        · exact hfresh name hmem (List.mem_append_left _ hentered)

/-- The simple chains are listed, all of them and nothing else. -/
theorem mem_simpleChains_iff {entered : List String} {s t : Settings} {positions : List Nat} :
    (positions, t) ∈ spec.simpleChains entered s ↔ spec.IsSimpleChain entered s positions t := by
  induction entered, s using settingsFindings.induct spec generalizing positions t with
  | case1 entered s ih =>
      rw [isSimpleChain_iff, simpleChains_eq, List.mem_cons, List.mem_flatMap]
      constructor
      · rintro (heq | ⟨⟨group, i⟩, hname, hmem⟩)
        · cases heq
          exact Or.inl ⟨rfl, rfl⟩
        · obtain ⟨⟨rest, last⟩, hrest, heq⟩ := List.mem_map.mp hmem
          cases heq
          obtain ⟨content, hdeclared, hfresh, hrest⟩ := mem_chainsInto_iff.mp hrest
          exact Or.inr ⟨i, group, content, rest, rfl, List.mk_mem_zipIdx_iff_getElem?.mp hname,
            hdeclared, hfresh, (ih group content hdeclared hfresh).mp hrest⟩
      · rintro (⟨rfl, rfl⟩ | ⟨i, group, content, rest, rfl, hname, hdeclared, hfresh, hrest⟩)
        · exact Or.inl rfl
        · refine Or.inr ⟨(group, i), List.mk_mem_zipIdx_iff_getElem?.mpr hname, ?_⟩
          have hinto : (rest, t) ∈ spec.chainsInto entered group :=
            mem_chainsInto_iff.mpr
              ⟨content, hdeclared, hfresh, (ih group content hdeclared hfresh).mpr hrest⟩
          exact List.mem_map.mpr ⟨(rest, t), hinto, rfl⟩

/-- No chain is listed twice. -/
theorem nodup_simpleChains (entered : List String) (s : Settings) :
    ((spec.simpleChains entered s).map Prod.fst).Nodup := by
  induction entered, s using settingsFindings.induct spec with
  | case1 entered s ih =>
      have hinto : ∀ group, ((spec.chainsInto entered group).map Prod.fst).Nodup := by
        intro group
        unfold chainsInto
        cases hdeclared : spec.group? group with
        | none => exact List.nodup_nil
        | some content =>
            by_cases hentered : group ∈ entered
            · simp [hentered]
            · simpa [hentered] using ih group content hdeclared hentered
      have hgroups : (s.groups.zipIdx.flatMap fun e =>
          (spec.chainsInto entered e.1).map fun c => e.2 :: c.1).Nodup := by
        rw [List.nodup_flatMap]
        constructor
        · intro e _
          have hcons : ((spec.chainsInto entered e.1).map Prod.fst).map (e.2 :: ·) =
              (spec.chainsInto entered e.1).map fun c => e.2 :: c.1 := by
            rw [List.map_map]
            rfl
          rw [← hcons]
          exact (hinto e.1).map fun _ _ h => (List.cons.inj h).2
        · -- chains that begin at different positions are different
          have hpositions : s.groups.zipIdx.Pairwise fun a b => a.2 ≠ b.2 :=
            List.pairwise_map.mp (List.nodup_zipIdx_map_snd s.groups)
          refine hpositions.imp fun hne => ?_
          intro c hc hc'
          obtain ⟨_, -, rfl⟩ := List.mem_map.mp hc
          obtain ⟨_, -, heq⟩ := List.mem_map.mp hc'
          exact hne (List.cons.inj heq).1.symm
      have hmap : (spec.simpleChains entered s).map Prod.fst =
          [] :: s.groups.zipIdx.flatMap fun e =>
            (spec.chainsInto entered e.1).map fun c => e.2 :: c.1 := by
        rw [simpleChains_eq, List.map_cons, List.map_flatMap]
        simp only [List.map_map]
        rfl
      rw [hmap, List.nodup_cons]
      refine ⟨?_, hgroups⟩
      intro hmem
      obtain ⟨_, -, hmem⟩ := List.mem_flatMap.mp hmem
      obtain ⟨_, -, heq⟩ := List.mem_map.mp hmem
      cases heq

/-! ## The defects -/

/-- The defect that a name is by itself. -/
def nameDefects (spec : ProjectSpec) (group : String) : List Defect :=
  if spec.DeclaresGroup group then [] else [.invalidSettingsGroup group]

/-- What is wrong with settings themselves, name by name. -/
theorem ownDefects_eq (pathExists : String → Bool) (s : Settings) :
    spec.ownDefects s = s.groups.flatMap spec.nameDefects
      ++ (spec.configSettingsFindings s).filterMap (Finding.defect? pathExists) := by
  have hnames : ∀ groups : List String,
      (groups.filter fun group => ¬ spec.DeclaresGroup group).map Defect.invalidSettingsGroup =
        groups.flatMap spec.nameDefects := by
    intro groups
    induction groups with
    | nil => rfl
    | cons group rest ih =>
        by_cases hdeclared : spec.DeclaresGroup group <;> simp_all [nameDefects]
  have hmentions : ∀ config, spec.mentionsConfig config = decide (spec.MentionsConfig config) := by
    intro config
    rw [Bool.eq_iff_iff, decide_eq_true_iff, mentionsConfig_iff]
  have hconfigs : ∀ configSettings : List (String × Settings),
      ((configSettings.map Prod.fst).filter fun config => ¬ spec.MentionsConfig config).map
          Defect.invalidBuildSettingConfig =
        ((configSettings.filter fun e => !spec.mentionsConfig e.1).map fun e =>
          Finding.defect (.invalidBuildSettingConfig e.1)).filterMap
            (Finding.defect? pathExists) := by
    intro configSettings
    induction configSettings with
    | nil => rfl
    | cons e rest ih =>
        by_cases hmentioned : spec.MentionsConfig e.1 <;>
          simp_all [Finding.defect?]
  rw [ownDefects, hnames, hconfigs]
  rfl

/-- What a name comes to: the defect that it is by itself, and what is wrong along the chains that it
is the start of. -/
theorem groupDefects_perm {pathExists : String → Bool} {entered : List String} {group : String}
    (ih : ∀ content, spec.group? group = some content → group ∉ entered →
      (spec.settingsDefects pathExists (entered ++ [group]) content).Perm
        ((spec.simpleChains (entered ++ [group]) content).flatMap fun c => spec.ownDefects c.2)) :
    ((spec.groupFindings entered group).filterMap (Finding.defect? pathExists)).Perm
      (spec.nameDefects group
        ++ (spec.chainsInto entered group).flatMap fun c => spec.ownDefects c.2) := by
  cases hdeclared : spec.group? group with
  | none =>
      have hmissing := group?_eq_none_iff.mp hdeclared
      rw [groupFindings_of_undeclared hmissing]
      simp [nameDefects, hmissing, chainsInto, hdeclared, Finding.defect?]
  | some content =>
      have hknown : spec.DeclaresGroup group := declaresGroup_of_group? hdeclared
      by_cases hentered : group ∈ entered
      · rw [groupFindings_of_entered hdeclared hentered]
        simp [nameDefects, hknown, chainsInto, hdeclared, hentered, Finding.defect?]
      · have hinside := ih content hdeclared hentered
        rw [settingsDefects] at hinside
        rw [groupFindings_of_fresh hdeclared hentered]
        simpa [nameDefects, hknown, chainsInto, hdeclared, hentered] using hinside

/-- **A walk reports what is wrong with the settings at the end of each simple chain**, one chain
after another. -/
theorem settingsDefects_perm (pathExists : String → Bool) (entered : List String) (s : Settings) :
    (spec.settingsDefects pathExists entered s).Perm
      ((spec.simpleChains entered s).flatMap fun c => spec.ownDefects c.2) := by
  induction entered, s using settingsFindings.induct spec with
  | case1 entered s ih =>
      let onward (group : String) : List Defect :=
        (spec.chainsInto entered group).flatMap fun c => spec.ownDefects c.2
      let configs := (spec.configSettingsFindings s).filterMap (Finding.defect? pathExists)
      have hwalk : spec.settingsDefects pathExists entered s =
          (s.groups.flatMap fun group =>
            (spec.groupFindings entered group).filterMap (Finding.defect? pathExists))
            ++ configs := by
        rw [settingsDefects, settingsFindings_eq, List.filterMap_append, List.filterMap_flatMap]
      have hchains : ((spec.simpleChains entered s).flatMap fun c => spec.ownDefects c.2) =
          spec.ownDefects s ++ s.groups.flatMap onward := by
        rw [simpleChains_eq, List.flatMap_cons, List.flatMap_assoc]
        congr 1
        conv_rhs => rw [← List.zipIdx_map_fst 0 s.groups, List.flatMap_map]
        simp only [List.flatMap_map]
        rfl
      have hgroups : (s.groups.flatMap fun group =>
            (spec.groupFindings entered group).filterMap (Finding.defect? pathExists)).Perm
          (s.groups.flatMap spec.nameDefects ++ s.groups.flatMap onward) := by
        refine (List.Perm.flatMap_left _ fun group _ => ?_).trans
          (List.flatMap_append_perm s.groups spec.nameDefects onward).symm
        exact groupDefects_perm fun content => ih group content
      rw [hwalk, hchains, ownDefects_eq pathExists, List.append_assoc]
      refine (hgroups.append_right configs).trans ?_
      rw [List.append_assoc]
      exact List.perm_append_comm.append_left _

/-- Defects that are made of some names in a way that tells them apart. -/
theorem count_map_filter {make : String → Defect} (hmake : Function.Injective make)
    (names : List String) (missing : String → Bool) (name : String) :
    ((names.filter missing).map make).count (make name) =
      if missing name then names.count name else 0 := by
  rw [List.count_map_of_injective _ make hmake]
  split
  · next h => exact List.count_filter h
  · next h => exact List.count_eq_zero.mpr fun hmem => h (List.mem_filter.mp hmem).2

theorem count_map_of_other {make : String → Defect} {d : Defect} (hother : ∀ name, make name ≠ d)
    (names : List String) : (names.map make).count d = 0 := by
  rw [List.count_eq_zero, List.mem_map]
  rintro ⟨name, -, heq⟩
  exact hother name heq

theorem count_ownDefects (s : Settings) (d : Defect) :
    (spec.ownDefects s).count d = spec.ownCount s d := by
  have hgroups : Function.Injective Defect.invalidSettingsGroup :=
    fun _ _ h => Defect.invalidSettingsGroup.inj h
  have hconfigs : Function.Injective Defect.invalidBuildSettingConfig :=
    fun _ _ h => Defect.invalidBuildSettingConfig.inj h
  rw [ownDefects, List.count_append]
  cases d with
  | invalidSettingsGroup group =>
      have hother : ∀ config, Defect.invalidBuildSettingConfig config ≠ .invalidSettingsGroup group := by
        simp
      rw [count_map_filter hgroups, count_map_of_other hother, Nat.add_zero, ownCount]
      by_cases hdeclared : spec.DeclaresGroup group <;> simp [hdeclared]
  | invalidBuildSettingConfig config =>
      have hother : ∀ group, Defect.invalidSettingsGroup group ≠ .invalidBuildSettingConfig config := by
        simp
      rw [count_map_of_other hother, count_map_filter hconfigs, Nat.zero_add, ownCount]
      by_cases hmentioned : spec.MentionsConfig config <;> simp [hmentioned]
  | _ =>
      exact Nat.add_eq_zero_iff.mpr
        ⟨count_map_of_other (by simp) _, count_map_of_other (by simp) _⟩

/-- **How often each defect is reported.**  Let settings be reached through some groups.  The walk
reports what is wrong with the settings at the end of every simple chain, as often as it is wrong
there: once for each time that a missing group is named, once for each configuration that is not
there, and nothing else.  So the number of times that a defect is reported is the sum over all simple
chains. -/
theorem settingsDefects_along_simple_chains (spec : ProjectSpec) (pathExists : String → Bool)
    (entered : List String) (s : Settings) :
    ∃ chains : List (List Nat × Settings),
      (chains.map Prod.fst).Nodup ∧
      (∀ positions t, (positions, t) ∈ chains ↔ spec.IsSimpleChain entered s positions t) ∧
      (spec.settingsDefects pathExists entered s).Perm
        (chains.flatMap fun c => spec.ownDefects c.2) ∧
      ∀ d, (spec.settingsDefects pathExists entered s).count d =
        (chains.map fun c => spec.ownCount c.2 d).sum := by
  have hperm := @settingsDefects_perm spec pathExists entered s
  refine ⟨spec.simpleChains entered s, nodup_simpleChains entered s,
    fun _ _ => mem_simpleChains_iff, hperm, fun d => ?_⟩
  rw [hperm.count_eq, List.count_flatMap]
  simp only [Function.comp_def, count_ownDefects]

end BuildSpec.ProjectSpec
