import BuildSpec.Proofs.Audit.Inquiry
import BuildSpec.Spec.Review

/-!
# Rings of setting groups

A walk that comes back to a group that it is in remarks on the chain of groups that led there.  This
file says what these remarks are worth:

* `Trail` — what is known of the groups that a walk came through, kept with each group that it
  enters (`Trail.enter`);
* `ring_of_mem_settingsFindings` — so a remark shows a ring that is really there;
* `exists_ring_of_route` — a walk that is in a group and finds a way back to it remarks on a ring;
* `review_eq` — remarking changes nothing about the defects;
* `rings_are_remarked_on` — all of it together: there is a remark just when groups include each
  other in a ring, whether anything uses these groups or not.
-/

namespace BuildSpec.ProjectSpec

variable (spec : ProjectSpec)

/-- A setting group includes a group that is declared. -/
def GroupIncludes (group included : String) : Prop :=
  ∃ content, spec.group? group = some content ∧ included ∈ content.groups ∧
    spec.DeclaresGroup included

/-- What is known when a walk has come to settings through some groups: each of them includes the
next one, none of them has been entered twice, and the last one consists of the settings. -/
structure Trail (entered : List String) (s : Settings) : Prop where
  chain : entered.IsChain spec.GroupIncludes
  nodup : entered.Nodup
  last : ∀ group ∈ entered.getLast?, spec.group? group = some s

variable {spec}

/-! ## What a remark shows -/

namespace Trail

variable {entered : List String} {s content : Settings} {group : String}

theorem start (s : Settings) : spec.Trail [] s where
  chain := List.isChain_nil
  nodup := List.nodup_nil
  last := by simp

theorem single (hdeclared : spec.group? group = some content) : spec.Trail [group] content where
  chain := List.isChain_singleton _
  nodup := List.nodup_singleton _
  last := by simpa using hdeclared

/-- The groups on the way and the next one that the settings name are a chain. -/
theorem chain_append (h : spec.Trail entered s) (hmem : group ∈ s.groups)
    (hdeclared : spec.DeclaresGroup group) :
    (entered ++ [group]).IsChain spec.GroupIncludes := by
  rw [List.isChain_append]
  refine ⟨h.chain, List.isChain_singleton _, ?_⟩
  intro before hbefore next hnext
  obtain rfl : group = next := by simpa using hnext
  exact ⟨s, h.last before hbefore, hmem, hdeclared⟩

/-- One step of the walk. -/
theorem enter (h : spec.Trail entered s) (hmem : group ∈ s.groups)
    (hdeclared : spec.group? group = some content) (hfresh : group ∉ entered) :
    spec.Trail (entered ++ [group]) content where
  chain := h.chain_append hmem (declaresGroup_of_group? hdeclared)
  nodup := by simpa using List.Nodup.concat hfresh h.nodup
  last := by simpa using hdeclared

end Trail

/-- A chain that a walk remarks on runs from group to included group and ends at a group that it
came through, the only one that it came to twice. -/
theorem ring_of_mem_settingsFindings {entered chain : List String} {s : Settings}
    (htrail : spec.Trail entered s) (hring : .ring chain ∈ spec.settingsFindings entered s) :
    ∃ way last, chain = way ++ [last] ∧ chain.IsChain spec.GroupIncludes ∧ way.Nodup ∧
      last ∈ way := by
  induction entered, s using settingsFindings.induct spec with
  | case1 entered s ih =>
      rw [settingsFindings_eq, List.mem_append, List.mem_flatMap] at hring
      rcases hring with ⟨group, hmem, hring⟩ | hring
      · obtain ⟨-, heq⟩ | ⟨content, hdeclared, ⟨hentered, heq⟩ | ⟨hfresh, hring⟩⟩ :=
          mem_groupFindings_iff.mp hring
        · cases heq
        · cases heq
          exact ⟨entered, group, rfl,
            htrail.chain_append hmem (declaresGroup_of_group? hdeclared), htrail.nodup, hentered⟩
        · exact ih group content hdeclared hfresh (htrail.enter hmem hdeclared hfresh) hring
      · obtain ⟨_, _, _, heq⟩ := mem_configSettingsFindings_iff.mp hring
        cases heq

/-- No reference outside of settings amounts to a ring. -/
theorem ring_notMem_referenceFindings (chain : List String) (r : Reference) :
    .ring chain ∉ spec.referenceFindings r := by
  unfold referenceFindings
  split
  · simp
  · split <;> simp

/-- A remark of the audit is one of a walk along a trail. -/
theorem exists_trail_of_mem_rings (hdistinct : spec.DistinctGroups) {chain : List String}
    (hring : chain ∈ spec.rings) :
    ∃ entered s, spec.Trail entered s ∧ .ring chain ∈ spec.settingsFindings entered s := by
  obtain ⟨f, hfound, hf⟩ := List.mem_filterMap.mp hring
  obtain rfl : f = .ring chain := by
    cases f with
    | ring _ => exact congrArg Finding.ring (Option.some.inj hf)
    | defect _ | path _ _ => cases hf
  obtain ⟨s, -, entered, hwalk, rfl | ⟨group, hmem, rfl⟩⟩ :=
    exists_walk_of_mem_findings (ring_notMem_referenceFindings chain) hfound
  · exact ⟨[], s, .start s, hwalk⟩
  · exact ⟨[group], s, .single ((group?_eq_some_iff hdistinct).mpr hmem), hwalk⟩

/-- A chain that ends where it has been before goes round. -/
theorem transGen_of_isChain {way : List String} {last : String}
    (hchain : (way ++ [last]).IsChain spec.GroupIncludes) (hlast : last ∈ way) :
    Relation.TransGen spec.GroupIncludes last last := by
  have htrans : (way ++ [last]).IsChain (Relation.TransGen spec.GroupIncludes) :=
    hchain.imp fun _ _ h => .single h
  have hpairwise := List.isChain_iff_pairwise.mp htrans
  rw [List.pairwise_append] at hpairwise
  exact hpairwise.2.2 last hlast last (List.mem_singleton_self last)

/-! ## A ring is remarked on -/

/-- From a group to one that can be reached from it there is a route, up to the last inclusion. -/
theorem exists_route_of_transGen {group included : String}
    (h : Relation.TransGen spec.GroupIncludes group included) :
    ∃ content, spec.group? group = some content ∧ ∃ route t, spec.Route content route t ∧
      included ∈ t.groups := by
  induction h using Relation.TransGen.head_induction_on with
  | single hstep =>
      obtain ⟨content, hdeclared, hmem, -⟩ := hstep
      exact ⟨content, hdeclared, [], content, .here content, hmem⟩
  | head hstep _ ih =>
      obtain ⟨content, hdeclared, hmem, -⟩ := hstep
      obtain ⟨next, hnext, route, t, hroute, hincluded⟩ := ih
      exact ⟨content, hdeclared, _, t, .enter hmem hnext hroute, hincluded⟩

/-- A walk remarks on a ring if a route leads to settings that name a group which it is in. -/
theorem exists_ring_of_route {entered route : List String} {s t : Settings} {group : String}
    (hroute : spec.Route s route t) (havoid : ∀ name ∈ route, name ∉ entered)
    (hmem : group ∈ t.groups) (hentered : group ∈ entered) {content : Settings}
    (hdeclared : spec.group? group = some content) :
    ∃ chain, .ring chain ∈ spec.settingsFindings entered s := by
  obtain ⟨more, hmore⟩ := exists_walk_of_route hroute havoid
  have hin : group ∈ entered ++ more := List.mem_append_left more hentered
  refine ⟨entered ++ more ++ [group], hmore ?_⟩
  rw [settingsFindings_eq, List.mem_append, List.mem_flatMap]
  exact Or.inl ⟨group, hmem, by simp [groupFindings_of_entered hdeclared hin]⟩

/-- Groups that include each other in a ring are remarked on, as each of them is where a walk
starts. -/
theorem exists_mem_rings_of_transGen {group : String}
    (h : Relation.TransGen spec.GroupIncludes group group) : ∃ chain, chain ∈ spec.rings := by
  obtain ⟨content, hdeclared, route, t, hroute, hmem⟩ := exists_route_of_transGen h
  obtain ⟨rest, hrest, hnot, -⟩ := hroute.avoid hdeclared
  have hclear : ∀ name ∈ rest, name ∉ [group] := by
    intro name hname hin
    exact hnot (List.mem_singleton.mp hin ▸ hname)
  obtain ⟨chain, hring⟩ :=
    exists_ring_of_route hrest hclear hmem (List.mem_singleton_self group) hdeclared
  have hfound : .ring chain ∈ spec.findings := by
    rw [findings_eq]
    simp only [List.mem_append, List.mem_flatMap]
    exact Or.inl (Or.inl (Or.inr ⟨(group, content), spec.mem_settingGroups hdeclared, hring⟩))
  exact ⟨chain, List.mem_filterMap.mpr ⟨.ring chain, hfound, rfl⟩⟩

/-! ## Remarks and defects -/

section Review

variable {m : Type → Type} [Monad m] [LawfulMonad m] (remark : List String → m Unit)
  (pathExists : String → Bool)

/-- Tells of some findings: remarks on the rings, and comes to the defects. -/
def reviewFindings (findings : List Finding) : m (List Defect) := do
  (findings.filterMap Finding.ring?).forM remark
  return found pathExists findings

theorem reviewFindings_append (a b : List Finding) :
    reviewFindings remark pathExists (a ++ b) =
      do return (← reviewFindings remark pathExists a) ++ (← reviewFindings remark pathExists b) := by
  simp [reviewFindings, found]

/-- Without a ring there is nothing to remark on. -/
theorem reviewFindings_of_no_ring {findings : List Finding} (hnone : ∀ f ∈ findings, f.ring? = none) :
    reviewFindings remark pathExists findings = pure (found pathExists findings) := by
  rw [reviewFindings, List.filterMap_eq_nil_iff.mpr hnone]
  exact pure_bind _ _

theorem reviewFindings_ring (chain : List String) :
    reviewFindings remark pathExists [.ring chain] = do remark chain; return [] := by
  have hchain : [Finding.ring chain].filterMap Finding.ring? = [chain] := rfl
  have hfound : found pathExists [.ring chain] = [] := rfl
  simp [reviewFindings, hchain, hfound]

theorem reviewFindings_flatMap {α : Type} (items : List α) (f : α → List Finding) :
    reviewFindings remark pathExists (items.flatMap f) =
      inquireAll items fun a => reviewFindings remark pathExists (f a) := by
  induction items with
  | nil => simp [reviewFindings, found, inquireAll_nil]
  | cons a rest ih => rw [List.flatMap_cons, reviewFindings_append, inquireAll_cons, ih]

omit [LawfulMonad m] [Monad m] in
theorem ring?_of_mem_referenceFindings {references : List Reference} {f : Finding}
    (hf : f ∈ references.flatMap spec.referenceFindings) : f.ring? = none := by
  obtain ⟨r, -, hr⟩ := List.mem_flatMap.mp hf
  cases f with
  | ring chain => exact absurd hr (ring_notMem_referenceFindings chain r)
  | defect _ | path _ _ => rfl

theorem reviewFindings_configSettings (s : Settings) :
    reviewFindings remark pathExists (spec.configSettingsFindings s) =
      pure (settled (spec.configSettingsFindings s)) := by
  have hnone : ∀ f ∈ spec.configSettingsFindings s, f.ring? = none := by
    intro f hf
    obtain ⟨_, _, _, rfl⟩ := mem_configSettingsFindings_iff.mp hf
    rfl
  rw [reviewFindings_of_no_ring remark pathExists hnone]
  simp only [found, settled, configSettingsFindings, List.filterMap_map]
  rfl

/-- A review of settings tells of what the walk finds. -/
theorem reviewSettings_eq (entered : List String) (s : Settings) :
    spec.reviewSettings remark entered s =
      reviewFindings remark pathExists (spec.settingsFindings entered s) := by
  induction entered, s using settingsFindings.induct spec with
  | case1 entered s ih =>
      rw [reviewSettings, settingsFindings_eq, reviewFindings_append, reviewFindings_flatMap,
        reviewFindings_configSettings]
      simp only [pure_bind]
      congr 2
      funext group
      split
      · next hdeclared =>
          rw [groupFindings_of_undeclared (group?_eq_none_iff.mp hdeclared),
            reviewFindings_of_no_ring remark pathExists (by simp [Finding.ring?])]
          rfl
      · next content hdeclared =>
          by_cases hentered : group ∈ entered
          · rw [dif_pos hentered, groupFindings_of_entered hdeclared hentered, reviewFindings_ring]
          · rw [dif_neg hentered, groupFindings_of_fresh hdeclared hentered]
            exact ih group content hdeclared hentered

theorem reviewTarget_eq (target : Target) :
    spec.reviewTarget remark pathExists target =
      reviewFindings remark pathExists (spec.targetFindings target) := by
  have hreferences : spec.dependencyFindings target
        ++ spec.configFilesFindings target.configFiles (.invalidTargetConfigFile target.name)
        ++ spec.sourceFindings target
        ++ (target.scheme.map (spec.targetSchemeFindings target)).getD []
        ++ scriptFindings target =
      (targetReferences target).flatMap spec.referenceFindings :=
    List.append_cancel_right (targetFindings_eq spec target)
  rw [reviewTarget, targetFindings_eq, reviewFindings_append, hreferences,
    reviewSettings_eq remark pathExists,
    reviewFindings_of_no_ring remark pathExists fun _ => ring?_of_mem_referenceFindings, pure_bind]

/-- **Remarks have no part in the defects.**  Whatever remarking is, a review remarks on the rings of
the audit one after another, and comes to the defects of the audit. -/
theorem review_eq (spec : ProjectSpec) :
    spec.review remark pathExists = do
      spec.rings.forM remark
      return spec.defects pathExists := by
  have hfiles : reviewFindings remark pathExists
        (spec.fileGroups.map (fun group => .path group (.invalidFileGroup group))
          ++ spec.configFilesFindings spec.configFiles .invalidConfigFile) =
      pure (found pathExists
        (spec.fileGroups.map (fun group => .path group (.invalidFileGroup group))
          ++ spec.configFilesFindings spec.configFiles .invalidConfigFile)) := by
    apply reviewFindings_of_no_ring
    intro f hf
    rw [configFilesFindings_eq none _ .invalidConfigFile (fun _ _ => rfl), List.mem_append] at hf
    rcases hf with hgroup | hfile
    · obtain ⟨group, -, rfl⟩ := List.mem_map.mp hgroup
      rfl
    · exact ring?_of_mem_referenceFindings hfile
  have hschemes : reviewFindings remark pathExists (spec.schemes.flatMap spec.schemeFindings) =
      pure (found pathExists (spec.schemes.flatMap spec.schemeFindings)) := by
    rw [funext (schemeFindings_eq spec), ← List.flatMap_assoc]
    exact reviewFindings_of_no_ring _ _ fun _ => ring?_of_mem_referenceFindings
  have hfindings : spec.findings =
      spec.settingsFindings [] spec.settings
        ++ (spec.fileGroups.map (fun group => .path group (.invalidFileGroup group))
          ++ spec.configFilesFindings spec.configFiles .invalidConfigFile)
        ++ spec.settingGroups.flatMap (fun g => spec.settingsFindings [g.1] g.2)
        ++ spec.targets.flatMap spec.targetFindings
        ++ spec.schemes.flatMap spec.schemeFindings := by
    rw [findings, ← List.append_assoc]
  calc spec.review remark pathExists
      = reviewFindings remark pathExists spec.findings := by
        rw [hfindings]
        simp only [review, reviewFindings_append, hfiles, hschemes, reviewFindings_flatMap,
          reviewSettings_eq remark pathExists, funext (reviewTarget_eq remark pathExists),
          bind_assoc, pure_bind]
    _ = do
          spec.rings.forM remark
          return spec.defects pathExists := rfl

end Review

/-! ## The log -/

/-- The warnings of the log are the remarks. -/
theorem warning_mem_auditLog_iff {count : Nat} {record : Log.Record} :
    record ∈ spec.auditLog count ∧ record.level = Log.warning ↔
      ∃ chain ∈ spec.rings, record = ⟨auditLogger, Log.warning,
        "Possible circular settings group reference: " ++ " -> ".intercalate chain⟩ := by
  simp only [auditLog, List.mem_append, List.mem_map, List.mem_singleton]
  constructor
  · rintro ⟨⟨chain, hchain, rfl⟩ | rfl, hlevel⟩
    · exact ⟨chain, hchain, rfl⟩
    · have hlevels : Log.debug ≠ Log.warning := by decide
      exact absurd hlevel hlevels
  · rintro ⟨chain, hchain, rfl⟩
    exact ⟨Or.inl ⟨chain, hchain, rfl⟩, rfl⟩

/-- **Rings are remarked on, and nothing else.**  The log of an audit has a warning just when some
setting groups include each other in a ring, whether or not any settings include these groups.  Each
warning tells of a chain of groups in which each includes the next one; it comes through no group
twice, but for its end, which is a group that it came through.  And whatever is done with the
warnings, an audit comes to the same defects. -/
theorem rings_are_remarked_on (spec : ProjectSpec) (pathExists : Path → String → Bool)
    (hdistinct : spec.DistinctGroups) :
    ((∃ record ∈ spec.auditLog (spec.defects (pathExists spec.basePath)).length,
        record.level = Log.warning) ↔
      ∃ group, Relation.TransGen spec.GroupIncludes group group) ∧
    (∀ record ∈ spec.auditLog (spec.defects (pathExists spec.basePath)).length,
      record.level = Log.warning →
        ∃ way last, record.message = "Possible circular settings group reference: "
            ++ " -> ".intercalate (way ++ [last]) ∧
          (way ++ [last]).IsChain spec.GroupIncludes ∧ way.Nodup ∧ last ∈ way) ∧
    ∀ (m : Type → Type) [Monad m] [LawfulMonad m] (remark : List String → m Unit),
      spec.review remark (pathExists spec.basePath) = do
        spec.rings.forM remark
        return spec.defects (pathExists spec.basePath) := by
  have hring : ∀ chain ∈ spec.rings, ∃ way last, chain = way ++ [last] ∧
      chain.IsChain spec.GroupIncludes ∧ way.Nodup ∧ last ∈ way := by
    intro chain hchain
    obtain ⟨entered, s, htrail, hwalk⟩ := exists_trail_of_mem_rings hdistinct hchain
    exact ring_of_mem_settingsFindings htrail hwalk
  refine ⟨⟨?_, ?_⟩, ?_, fun m _ _ remark => review_eq remark _ spec⟩
  · rintro ⟨record, hrecord, hlevel⟩
    obtain ⟨chain, hchain, -⟩ := warning_mem_auditLog_iff.mp ⟨hrecord, hlevel⟩
    obtain ⟨way, last, rfl, hincludes, -, hlast⟩ := hring chain hchain
    exact ⟨last, transGen_of_isChain hincludes hlast⟩
  · rintro ⟨group, hcycle⟩
    obtain ⟨chain, hchain⟩ := exists_mem_rings_of_transGen hcycle
    obtain ⟨hrecord, hlevel⟩ := warning_mem_auditLog_iff.mpr ⟨chain, hchain, rfl⟩
    exact ⟨_, hrecord, hlevel⟩
  · intro record hrecord hlevel
    obtain ⟨chain, hchain, rfl⟩ := warning_mem_auditLog_iff.mp ⟨hrecord, hlevel⟩
    obtain ⟨way, last, rfl, hincludes, hnodup, hlast⟩ := hring chain hchain
    exact ⟨way, last, rfl, hincludes, hnodup, hlast⟩

/-- The log tells of the ring of two groups that nothing else includes, and a count of the remarks
does not change the defects. -/
theorem ringSpec_is_remarked_on :
    ringSpec.DistinctGroups ∧
      (∃ record ∈ ringSpec.auditLog (ringSpec.defects fun _ => true).length,
        record.level = Log.warning) ∧
      ringSpec.review (fun _ => (modify (· + 1) : StateM Nat Unit)) (fun _ => true) = do
        ringSpec.rings.forM fun _ => modify (· + 1)
        return ringSpec.defects fun _ => true := by
  have hdistinct : ringSpec.DistinctGroups := by simp [DistinctGroups, ringSpec]
  obtain ⟨hlog, -, hreview⟩ := rings_are_remarked_on ringSpec (fun _ _ => true) hdistinct
  have hthere : ringSpec.GroupIncludes "App" "Base" :=
    ⟨⟨[], ["Base"], []⟩, rfl, by simp, by simp [DeclaresGroup, ringSpec]⟩
  have hback : ringSpec.GroupIncludes "Base" "App" :=
    ⟨⟨[], ["App", "Gone"], []⟩, rfl, by simp, by simp [DeclaresGroup, ringSpec]⟩
  exact ⟨hdistinct, hlog.mpr ⟨"App", .tail (.single hthere) hback⟩, hreview (StateM Nat) _⟩

end BuildSpec.ProjectSpec
