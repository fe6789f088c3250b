import BuildSpec.Proofs.Audit.Rings
import BuildSpec.Spec.Descent

/-!
# How deep a walk through settings goes

Setting groups may include each other in any way, in rings too, and nothing but the groups on the way
keeps a walk from going round for ever.  This file shows that these are enough:

* `CalledFrom` — the ways by which a walk comes to its calls, which are routes through distinct
  groups;
* `descendBy_tells` — one call finds what the audit finds, if the calls below it do;
* `descend_tells` — so a walk ends as soon as there is room for the groups that are not on its way;
* `calledFrom_start_iff` — the ways by which the walks of a whole audit come to their calls;
* `audit_fits_on_stack` — an audit needs no more room than there are setting groups, and its calls
  came through the chains of distinct groups that include one another.
-/

namespace BuildSpec

/-- A walk ends with some findings, and its calls are those that are described. -/
def Descent.Tells (isCall : List String → Prop) (findings : List Finding) (d : Option Descent) :
    Prop :=
  ∃ calls, d = some ⟨findings, calls⟩ ∧ ∀ way, way ∈ calls ↔ isCall way

/-- Walks one after another end if each of them does, and make the calls of each. -/
theorem Descent.exists_mapM {α : Type} {isCall : α → List String → Prop} {f : α → Option Descent}
    {g : α → List Finding} {items : List α} (h : ∀ a ∈ items, Tells (isCall a) (g a) (f a)) :
    ∃ parts, items.mapM f = some parts ∧ parts.flatMap Descent.findings = items.flatMap g ∧
      ∀ way, way ∈ parts.flatMap Descent.calls ↔ ∃ a ∈ items, isCall a way := by
  induction items with
  | nil => exact ⟨[], rfl, rfl, by simp⟩
  | cons a rest ih =>
      obtain ⟨⟨calls, hfirst, hcalls⟩, hrest⟩ := List.forall_mem_cons.mp h
      obtain ⟨parts, hparts, hfindings, hothers⟩ := ih hrest
      refine ⟨⟨g a, calls⟩ :: parts, by simp [hfirst, hparts], by simp [hfindings], fun way => ?_⟩
      rw [List.flatMap_cons, List.mem_append, hcalls, hothers, List.exists_mem_cons_iff]

namespace ProjectSpec

variable {spec : ProjectSpec} {entered way : List String} {s : Settings}

/-! ## The calls of a walk -/

/-- The way by which a walk that has come through some groups to settings may come to a call: a route
that comes through no group twice. -/
def CalledFrom (spec : ProjectSpec) (entered : List String) (s : Settings) (way : List String) :
    Prop :=
  ∃ route t, spec.Route s route t ∧ (entered ++ route).Nodup ∧ way = entered ++ route

theorem fresh_of_nodup {group : String} {rest : List String}
    (h : (entered ++ group :: rest).Nodup) : group ∉ entered := fun hmem =>
  (List.nodup_cons.mp (List.nodup_middle.mp h)).1 (List.mem_append_left rest hmem)

/-- A call is the first one, or comes through one of the groups that the settings name. -/
theorem calledFrom_iff (hnodup : entered.Nodup) :
    spec.CalledFrom entered s way ↔
      way = entered ∨ ∃ group ∈ s.groups, ∃ content, spec.group? group = some content ∧
        group ∉ entered ∧ spec.CalledFrom (entered ++ [group]) content way := by
  constructor
  · rintro ⟨route, t, hroute, hdistinct, rfl⟩
    cases hroute with
    | here => exact .inl (List.append_nil entered)
    | @enter _ content _ group rest hmem hdeclared honward =>
        refine .inr ⟨group, hmem, content, hdeclared, fresh_of_nodup hdistinct, rest, t, honward,
          ?_, List.append_cons entered group rest⟩
        rwa [← List.append_cons]
  · rintro (rfl | ⟨group, hmem, content, hdeclared, -, rest, t, honward, hdistinct, rfl⟩)
    · exact ⟨[], s, .here s, by rwa [List.append_nil], (List.append_nil _).symm⟩
    · rw [List.append_assoc] at hdistinct ⊢
      exact ⟨group :: rest, t, .enter hmem hdeclared honward, hdistinct, rfl⟩

/-- What is known of the groups on the way is kept up to every call. -/
theorem CalledFrom.exists_trail (htrail : spec.Trail entered s)
    (h : spec.CalledFrom entered s way) : ∃ t, spec.Trail way t := by
  obtain ⟨route, t, hroute, hdistinct, rfl⟩ := h
  induction hroute generalizing entered with
  | here s => exact ⟨s, by rwa [List.append_nil]⟩
  | @enter s content t group rest hmem hdeclared _ ih =>
      have hnext := htrail.enter hmem hdeclared (fresh_of_nodup hdistinct)
      rw [List.append_cons] at hdistinct ⊢
      exact ih hnext hdistinct

/-- The groups through which a walk came are declared: all but the last one because they include the
next one, and the last one because the walk is in it. -/
theorem Trail.declared (h : spec.Trail entered s) : ∀ group ∈ entered, spec.DeclaresGroup group := by
  intro group hmem
  obtain ⟨before, after, rfl⟩ := List.append_of_mem hmem
  cases after with
  | nil => exact declaresGroup_of_group? (h.last group (by simp))
  | cons next rest =>
      obtain ⟨-, ⟨content, hcontent, -⟩, -⟩ := List.isChain_append_cons_cons.mp h.chain
      exact declaresGroup_of_group? hcontent

/-- A chain of groups that include one another is a route. -/
theorem exists_route_of_isChain {group : String} {content : Settings} {rest : List String}
    (hdeclared : spec.group? group = some content)
    (hchain : (group :: rest).IsChain spec.GroupIncludes) : ∃ t, spec.Route content rest t := by
  induction rest generalizing group content with
  | nil => exact ⟨content, .here content⟩
  | cons next rest ih =>
      obtain ⟨⟨content', hcontent', hmem, hnext⟩, hchain⟩ := List.isChain_cons_cons.mp hchain
      rw [hdeclared] at hcontent'
      cases hcontent'
      cases hfound : spec.group? next with
      | none => exact absurd hnext (group?_eq_none_iff.mp hfound)
      | some included =>
          obtain ⟨t, ht⟩ := ih hfound hchain
          exact ⟨t, .enter hmem hfound ht⟩

/-! ## One walk -/

/-- **One call.**  It finds what the audit finds, if the calls for the groups that it enters do. -/
theorem descendBy_tells {deeper : List String → Settings → Option Descent}
    (hnodup : entered.Nodup)
    (hdeeper : ∀ group content, group ∉ entered →
      spec.openGroups (entered ++ [group]) < spec.openGroups entered →
      Descent.Tells (spec.CalledFrom (entered ++ [group]) content)
        (spec.settingsFindings (entered ++ [group]) content)
        (deeper (entered ++ [group]) content)) :
    Descent.Tells (spec.CalledFrom entered s) (spec.settingsFindings entered s)
      (spec.descendBy deeper entered s) := by
  have hgroup : ∀ group ∈ s.groups,
      Descent.Tells (fun way => ∃ content, spec.group? group = some content ∧ group ∉ entered ∧
          spec.CalledFrom (entered ++ [group]) content way)
        (spec.groupFindings entered group) (spec.descendInto deeper entered group) := by
    intro group _
    unfold descendInto
    cases hdeclared : spec.group? group with
    | none =>
        rw [groupFindings_of_undeclared (group?_eq_none_iff.mp hdeclared)]
        exact ⟨[], rfl, by simp⟩
    | some content =>
        by_cases hentered : group ∈ entered
        · rw [groupFindings_of_entered hdeclared hentered]
          exact ⟨[], if_pos hentered, by simp [hentered]⟩
        · rw [groupFindings_of_fresh hdeclared hentered]
          simp only [if_neg hentered]
          obtain ⟨calls, hcall, hcalls⟩ :=
            hdeeper group content hentered (spec.openGroups_lt hdeclared hentered)
          exact ⟨calls, hcall, fun way => by simp [hcalls, hentered]⟩
  obtain ⟨parts, hparts, hfindings, hcalls⟩ := Descent.exists_mapM hgroup
  refine ⟨entered :: parts.flatMap Descent.calls, ?_, fun way => ?_⟩
  · rw [descendBy, hparts, settingsFindings_eq, ← hfindings]
    rfl
  · rw [List.mem_cons, hcalls, calledFrom_iff hnodup]

/-- **A walk ends if there is room for the groups that are not on its way**, and finds what the audit
finds. -/
theorem descend_tells {room : Nat} (hnodup : entered.Nodup)
    (hroom : spec.openGroups entered ≤ room) :
    Descent.Tells (spec.CalledFrom entered s) (spec.settingsFindings entered s)
      (spec.descend room entered s) := by
  -- each group that is entered takes one place of the stack, and is no longer open
  induction room generalizing entered s with
  | zero =>
      refine descendBy_tells hnodup fun group content _ hfewer => ?_
      omega
  | succ room ih =>
      refine descendBy_tells hnodup fun group content hfresh hfewer => ?_
      exact ih (by simpa using List.Nodup.concat hfresh hnodup) (by omega)

/-! ## A whole audit -/

theorem openGroups_le (spec : ProjectSpec) (entered : List String) :
    spec.openGroups entered ≤ spec.settingGroups.length :=
  List.length_filter_le _ _

/-- The calls of the walks that an audit starts, in the settings of the spec, a group or a target,
came through the chains of distinct groups that include one another. -/
theorem calledFrom_start_iff (hdistinct : spec.DistinctGroups) :
    (spec.CalledFrom [] spec.settings way ∨
        ∃ g ∈ spec.settingGroups, spec.CalledFrom [g.1] g.2 way) ∨
          (∃ t ∈ spec.targets, spec.CalledFrom [] t.settings way) ↔
      way.Nodup ∧ (∀ group ∈ way, spec.DeclaresGroup group) ∧ way.IsChain spec.GroupIncludes := by
  constructor
  · intro hcalled
    obtain ⟨s, htrail⟩ : ∃ s, spec.Trail way s := by
      rcases hcalled with (hcalled | ⟨g, hg, hcalled⟩) | ⟨t, -, hcalled⟩
      · exact hcalled.exists_trail (.start spec.settings)
      · exact hcalled.exists_trail (.single ((group?_eq_some_iff hdistinct).mpr hg))
      · exact hcalled.exists_trail (.start t.settings)
    exact ⟨htrail.nodup, htrail.declared, htrail.chain⟩
  · rintro ⟨hnodup, hdeclared, hchain⟩
    cases way with
    | nil => exact .inl (.inl ⟨[], spec.settings, .here _, List.nodup_nil, rfl⟩)
    | cons group rest =>
        -- a chain of groups is walked from its first group, as from every group
        obtain ⟨g, hg, rfl⟩ := List.mem_map.mp (hdeclared group List.mem_cons_self)
        have hfound : spec.group? g.1 = some g.2 := (group?_eq_some_iff hdistinct).mpr hg
        obtain ⟨t, hroute⟩ := exists_route_of_isChain hfound hchain
        exact .inl (.inr ⟨g, hg, rest, t, hroute, hnodup, rfl⟩)

/-- **The walks of an audit end, whatever the setting groups include.**  An audit needs room for no
more calls, one inside another, than there are setting groups; with that room it finds all that
there is to be found.  Whenever a walk calls itself, the groups through which it came are declared
and distinct, and each of them includes the next one; and by each chain of such groups some walk
comes to a call. -/
theorem audit_fits_on_stack (spec : ProjectSpec) (hdistinct : spec.DistinctGroups) :
    ∃ calls, spec.auditWithin spec.settingGroups.length = some ⟨spec.findings, calls⟩ ∧
      ∀ entered, entered ∈ calls ↔
        entered.Nodup ∧ (∀ group ∈ entered, spec.DeclaresGroup group) ∧
          entered.IsChain spec.GroupIncludes := by
  obtain ⟨outer, hsettings, houter⟩ :=
    descend_tells (s := spec.settings) List.nodup_nil (spec.openGroups_le [])
  obtain ⟨groups, hgroups, hgroupFindings, hgroupCalls⟩ :=
    Descent.exists_mapM fun g (_ : g ∈ spec.settingGroups) =>
      descend_tells (s := g.2) (List.nodup_singleton g.1) (spec.openGroups_le [g.1])
  have htarget : ∀ t ∈ spec.targets, Descent.Tells (spec.CalledFrom [] t.settings)
      (spec.targetFindings t) (spec.auditTargetWithin spec.settingGroups.length t) := by
    intro t _
    obtain ⟨calls, hinside, hcalls⟩ :=
      descend_tells (s := t.settings) List.nodup_nil (spec.openGroups_le [])
    exact ⟨calls, by rw [auditTargetWithin, hinside]; rfl, hcalls⟩
  obtain ⟨targets, htargets, htargetFindings, htargetCalls⟩ := Descent.exists_mapM htarget
  refine ⟨outer ++ groups.flatMap Descent.calls ++ targets.flatMap Descent.calls, ?_, ?_⟩
  · simp only [auditWithin, hsettings, hgroups, htargets, findings, ← hgroupFindings,
      ← htargetFindings]
    rfl
  · intro entered
    rw [List.mem_append, List.mem_append, houter, hgroupCalls, htargetCalls,
      calledFrom_start_iff hdistinct]

/-- Two groups that include each other are no reason to go deeper than two calls.  One call comes
through the first group and the second, and none comes back to the first. -/
theorem ringSpec_fits_on_stack :
    ringSpec.DistinctGroups ∧
      ∃ calls, ringSpec.auditWithin 2 = some ⟨ringSpec.findings, calls⟩ ∧
        ["Base", "App"] ∈ calls ∧ ["Base", "App", "Base"] ∉ calls := by
  have hdistinct : ringSpec.DistinctGroups := by simp [DistinctGroups, ringSpec]
  obtain ⟨calls, haudit, hcalls⟩ := audit_fits_on_stack ringSpec hdistinct
  refine ⟨hdistinct, calls, haudit, (hcalls _).mpr ⟨by decide, ?_, ?_⟩, fun h => ?_⟩
  · simp [DeclaresGroup, ringSpec]
  · exact .cons_cons ⟨_, rfl, by simp, by simp [DeclaresGroup, ringSpec]⟩ (.singleton _)
  · exact absurd ((hcalls _).mp h).1 (by decide)

-- with less room the walk does not come to its end
example : ringSpec.descend 1 [] ⟨[], ["App"], []⟩ = none := by decide

end ProjectSpec

end BuildSpec
