import BuildSpec.Proofs.Audit.References
import BuildSpec.Spec.Inquiry

/-!
# What an inquiry asks

An inquiry asks about paths in the middle of its other checks, and what it asks might depend on the
answers that it got.  This file shows that it does not:

* `inquire_eq` — whatever asking is, an inquiry comes to the same as going through the findings of
  the audit one after another;
* `inquire_of_steady_disk` — with answers that do not change, it comes to the defects of the audit;
* `run_inquireFindings` — going through findings asks about each of their paths once, and comes to
  what can be told from the answers;
* `asked?_findings` — the paths of the findings are those of the path references, in their order;
* `inquiry_asks_each_path_reference_once` — both together, for a disk that may answer as it likes.
-/

namespace BuildSpec

/-- Whether a defect is a path that leads nowhere. -/
def Defect.isAboutPath : Defect → Bool
  | invalidFileGroup _ | invalidConfigFile .. | invalidTargetConfigFile .. | missingTargetSource ..
  | invalidBuildScriptPath .. => true
  | _ => false

/-- The path that a finding asks about, and the defect that depends on the answer. -/
def Finding.asked? : Finding → Option (String × Defect)
  | .path p d => some (p, d)
  | .defect _ | .ring _ => none

/-- A finding that asks about a path leads to a defect about a path, and one that is a defect already
is about something else. -/
def Finding.IsSorted : Finding → Prop
  | .defect d => d.isAboutPath = false
  | .path _ d => d.isAboutPath = true
  | .ring _ => True

/-- The references to files are those whose defects are about paths. -/
theorem Reference.isAboutPath_defect (base : Path) (r : Reference) :
    (r.defect base).isAboutPath = r.path?.isSome := by
  cases r with
  | configFile target => cases target <;> rfl
  | _ => rfl

/-- A question that was asked, and its answer. -/
structure Question where
  base : Path
  path : String
  answer : Bool
  deriving DecidableEq, Repr

/-- Asks a disk with a state, which may change with each question and decides about the next answer,
and writes down the question with its answer. -/
def recording {σ : Type} (disk : σ → Path → String → Bool × σ) (base : Path) (path : String) :
    StateM (σ × List Question) Bool := fun (s, asked) =>
  let (answer, next) := disk s base path
  (answer, next, asked ++ [⟨base, path, answer⟩])

namespace ProjectSpec

/-- The references to files, in the order of the audit: file groups and config files of the spec,
then of each target its config files, its sources, and its scripts before and after the build. -/
def pathReferences (spec : ProjectSpec) : List Reference :=
  spec.fileGroups.map .fileGroup
    ++ spec.configFiles.map (fun e => .configFile none e.1 e.2)
    ++ spec.targets.flatMap fun t =>
        t.configFiles.map (fun e => .configFile (some t.name) e.1 e.2)
          ++ sourceReferences t ++ scriptReferences t

/-! ## References that are not to files -/

theorem path?_of_mem_dependencyReferences {target : Target} {r : Reference}
    (h : r ∈ dependencyReferences target) : r.path? = none := by
  obtain ⟨d, -, rfl⟩ := List.mem_map.mp h
  rfl

theorem path?_of_mem_targetSchemeReferences {target : Target} {r : Reference}
    (h : r ∈ variantReferences target ++ testReferences target) : r.path? = none := by
  cases hscheme : target.scheme with
  | none => simp [variantReferences, testReferences, hscheme] at h
  | some scheme =>
      simp only [variantReferences, testReferences, hscheme, List.mem_append] at h
      rcases h with h | h
      · split at h
        · obtain ⟨kind, -, rfl⟩ := List.mem_map.mp h
          rfl
        · obtain ⟨variant, -, h⟩ := List.mem_flatMap.mp h
          obtain ⟨kind, -, rfl⟩ := List.mem_map.mp h
          rfl
      · obtain ⟨test, -, rfl⟩ := List.mem_map.mp h
        rfl

theorem path?_of_mem_schemeReferences {scheme : Scheme} {r : Reference}
    (h : r ∈ schemeReferences scheme) : r.path? = none := by
  simp only [schemeReferences, buildReferences, actionReferences, List.mem_append, List.mem_map] at h
  rcases h with ⟨b, -, rfl⟩ | ⟨a, -, rfl⟩ <;> rfl

/-! ## Looking at several things -/

section Lawful

variable {m : Type → Type} [Monad m] [LawfulMonad m] {α β : Type}

theorem inquireAll_nil (f : α → m (List Defect)) : inquireAll [] f = pure [] := by
  simp [inquireAll]

theorem inquireAll_cons (a : α) (rest : List α) (f : α → m (List Defect)) :
    inquireAll (a :: rest) f = do return (← f a) ++ (← inquireAll rest f) := by
  simp [inquireAll]

theorem inquireAll_append (items more : List α) (f : α → m (List Defect)) :
    inquireAll (items ++ more) f = do return (← inquireAll items f) ++ (← inquireAll more f) := by
  induction items with
  | nil => simp [inquireAll_nil]
  | cons a rest ih =>
      simp only [List.cons_append, inquireAll_cons, ih, bind_assoc, pure_bind, List.append_assoc]

theorem inquireAll_map (items : List β) (g : β → α) (f : α → m (List Defect)) :
    inquireAll (items.map g) f = inquireAll items fun b => f (g b) := by
  induction items with
  | nil => simp [inquireAll_nil]
  | cons b rest ih => simp [inquireAll_cons, ih]

theorem inquireAll_flatMap (items : List β) (g : β → List α) (f : α → m (List Defect)) :
    inquireAll (items.flatMap g) f = inquireAll items fun b => inquireAll (g b) f := by
  induction items with
  | nil => simp [inquireAll_nil]
  | cons b rest ih => simp [inquireAll_cons, inquireAll_append, ih]

/-! ## Going through findings -/

variable (ask : Path → String → m Bool) (spec : ProjectSpec)

/-- Inquires into a finding. -/
def inquireFinding : Finding → m (List Defect)
  | .defect d => return [d]
  | .path path d => spec.inquirePath ask path d
  | .ring _ => return []

/-- Inquires into findings one after another. -/
def inquireFindings (findings : List Finding) : m (List Defect) :=
  inquireAll findings (spec.inquireFinding ask)

theorem inquireFindings_append (a b : List Finding) :
    spec.inquireFindings ask (a ++ b) =
      do return (← spec.inquireFindings ask a) ++ (← spec.inquireFindings ask b) :=
  inquireAll_append a b _

/-- Findings without paths need no answers. -/
theorem inquireFindings_of_settled {findings : List Finding}
    (h : ∀ f ∈ findings, f.path? = none) :
    spec.inquireFindings ask findings = pure (settled findings) := by
  unfold inquireFindings
  induction findings with
  | nil => simp [inquireAll_nil, settled]
  | cons f rest ih =>
      have hrest := ih fun g hg => h g (List.mem_cons_of_mem _ hg)
      have hf := h f List.mem_cons_self
      rw [inquireAll_cons, hrest]
      cases f with
      | defect d => simp [inquireFinding, settled, Finding.defect?]
      | path path d => simp [Finding.path?] at hf
      | ring chain =>
          have hring : Finding.defect? (fun _ => true) (.ring chain) = none := rfl
          simp [inquireFinding, settled, hring]

/-- The walk through settings asks about nothing. -/
theorem path?_of_mem_settingsFindings {entered : List String} {s : Settings} {f : Finding}
    (h : f ∈ spec.settingsFindings entered s) : f.path? = none := by
  cases f with
  | path path d => exact absurd h (path_notMem_settingsFindings path d entered s)
  | _ => rfl

/-- References that are not to files are not asked about. -/
theorem path?_of_mem_referenceFindings {references : List Reference}
    (hnames : ∀ r ∈ references, r.path? = none) {f : Finding}
    (h : f ∈ references.flatMap spec.referenceFindings) : f.path? = none := by
  obtain ⟨r, hr, hf⟩ := List.mem_flatMap.mp h
  rw [referenceFindings_of_path?_eq_none (hnames r hr)] at hf
  split at hf
  · cases hf
  · rw [List.mem_singleton.mp hf]
    rfl

theorem inquireConfigFiles_eq (files : List (String × String))
    (defect : String → String → Defect) :
    spec.inquireConfigFiles ask files defect =
      spec.inquireFindings ask (spec.configFilesFindings files defect) := by
  rw [inquireFindings, configFilesFindings, inquireAll_flatMap, inquireConfigFiles]
  congr 1
  funext entry
  obtain ⟨config, file⟩ := entry
  rw [inquireAll_cons]
  by_cases hconfig : spec.hasConfig config = true
  · simp [hconfig, inquireFinding, inquireAll_nil]
  · simp [hconfig, inquireFinding, inquireAll_nil, inquireAll_cons]

theorem inquireSources_eq (target : Target) :
    spec.inquireSources ask target =
      spec.inquireFindings ask (spec.sourceFindings target) := by
  rw [inquireFindings, sourceFindings, inquireAll_map]
  rfl

theorem inquireScripts_eq (target : Target) :
    spec.inquireScripts ask target = spec.inquireFindings ask (scriptFindings target) := by
  rw [inquireFindings, scriptFindings, inquireScripts]
  induction target.prebuildScripts ++ target.postbuildScripts with
  | nil => simp [inquireAll_nil]
  | cons script rest ih =>
      rw [inquireAll_cons, ih]
      cases hsource : script.source with
      | inline text => simp [hsource]
      | path path => simp [hsource, inquireAll_cons, inquireFinding]

theorem inquireTarget_eq (target : Target) :
    spec.inquireTarget ask target =
      spec.inquireFindings ask (spec.targetFindings target) := by
  have hdependencies : spec.inquireFindings ask (spec.dependencyFindings target) =
      pure (settled (spec.dependencyFindings target)) := by
    apply inquireFindings_of_settled
    intro f hf
    rw [dependencyFindings_eq] at hf
    exact path?_of_mem_referenceFindings spec (fun _ => path?_of_mem_dependencyReferences) hf
  have hscheme : spec.inquireFindings ask
        ((target.scheme.map (spec.targetSchemeFindings target)).getD []) =
      pure (settled ((target.scheme.map (spec.targetSchemeFindings target)).getD [])) := by
    apply inquireFindings_of_settled
    intro f hf
    rw [targetSchemeFindings_eq] at hf
    exact path?_of_mem_referenceFindings spec (fun _ => path?_of_mem_targetSchemeReferences) hf
  have hsettings := inquireFindings_of_settled ask spec
    fun _ (h : _ ∈ spec.settingsFindings [] target.settings) =>
      path?_of_mem_settingsFindings spec h
  simp only [inquireTarget, targetFindings, inquireFindings_append, hdependencies, hscheme,
    hsettings, inquireConfigFiles_eq, inquireSources_eq, inquireScripts_eq, bind_assoc, pure_bind]

/-- **An inquiry goes through the findings of the audit**, whatever asking is. -/
theorem inquire_eq : spec.inquire ask = spec.inquireFindings ask spec.findings := by
  have hsettings := inquireFindings_of_settled ask spec
    fun _ (h : _ ∈ spec.settingsFindings [] spec.settings) => path?_of_mem_settingsFindings spec h
  have hgroups : spec.inquireFindings ask
        (spec.settingGroups.flatMap fun g => spec.settingsFindings [g.1] g.2) =
      pure (settled (spec.settingGroups.flatMap fun g => spec.settingsFindings [g.1] g.2)) := by
    apply inquireFindings_of_settled
    intro f hf
    obtain ⟨g, -, hf⟩ := List.mem_flatMap.mp hf
    exact path?_of_mem_settingsFindings spec hf
  have hschemes : spec.inquireFindings ask (spec.schemes.flatMap spec.schemeFindings) =
      pure (settled (spec.schemes.flatMap spec.schemeFindings)) := by
    apply inquireFindings_of_settled
    intro f hf
    obtain ⟨scheme, -, hf⟩ := List.mem_flatMap.mp hf
    rw [schemeFindings_eq] at hf
    exact path?_of_mem_referenceFindings spec (fun _ => path?_of_mem_schemeReferences) hf
  have hfileGroups : (inquireAll spec.fileGroups fun group =>
        spec.inquirePath ask group (.invalidFileGroup group)) =
      spec.inquireFindings ask (spec.fileGroups.map fun group =>
        .path group (.invalidFileGroup group)) := by
    rw [inquireFindings, inquireAll_map]
    rfl
  have htargets : inquireAll spec.targets (spec.inquireTarget ask) =
      spec.inquireFindings ask (spec.targets.flatMap spec.targetFindings) := by
    rw [inquireFindings, inquireAll_flatMap]
    congr 1
    funext target
    exact inquireTarget_eq ask spec target
  simp only [inquire, findings, inquireFindings_append, hsettings, hgroups, hschemes, hfileGroups,
    htargets, inquireConfigFiles_eq, bind_assoc, pure_bind]

/-- **A steady disk.**  If the answers depend on nothing but the paths, an inquiry comes to the
defects of the audit. -/
theorem inquire_of_steady_disk (pathExists : Path → String → Bool) :
    spec.inquire (fun base path => (pure (pathExists base path) : m Bool)) =
      pure (spec.defects (pathExists spec.basePath)) := by
  rw [inquire_eq, inquireFindings, defects]
  induction spec.findings with
  | nil => simp [inquireAll_nil]
  | cons f rest ih =>
      rw [inquireAll_cons, ih]
      cases f with
      | defect d => simp [inquireFinding, Finding.defect?]
      | ring chain =>
          have hring : Finding.defect? (pathExists spec.basePath) (.ring chain) = none := rfl
          simp [inquireFinding, hring]
      | path path d =>
          by_cases hpath : pathExists spec.basePath path = true
          · simp [inquireFinding, inquirePath, Finding.defect?, hpath]
          · simp [inquireFinding, inquirePath, Finding.defect?, hpath]

end Lawful

/-! ## Questions and answers -/

variable {σ : Type} (disk : σ → Path → String → Bool × σ) (spec : ProjectSpec)

/-- Going through findings asks about each of their paths once, in order, and comes to what can be
told from the answers. -/
theorem run_inquireFindings (findings : List Finding) (s : σ) (before : List Question) :
    ∃ asked next, (spec.inquireFindings (recording disk) findings).run (s, before) =
        pure (defectsAnswered findings (asked.map Question.answer), next, before ++ asked) ∧
      asked.map (fun q => (q.base, q.path)) =
        (findings.filterMap Finding.asked?).map fun e => (spec.basePath, e.1) := by
  unfold inquireFindings
  induction findings generalizing s before with
  | nil => exact ⟨[], s, by simp [inquireAll_nil, defectsAnswered], rfl⟩
  | cons f rest ih =>
      rw [inquireAll_cons]
      cases f with
      | defect d =>
          obtain ⟨asked, next, hrun, hasked⟩ := ih s before
          exact ⟨asked, next, by simp [inquireFinding, hrun, defectsAnswered], hasked⟩
      | ring chain =>
          obtain ⟨asked, next, hrun, hasked⟩ := ih s before
          exact ⟨asked, next, by simp [inquireFinding, hrun, defectsAnswered], hasked⟩
      | path path d =>
          -- the state and the list of questions go on to the rest of the findings
          rcases hanswer : disk s spec.basePath path with ⟨answer, after⟩
          obtain ⟨asked, next, hrun, hasked⟩ :=
            ih after (before ++ [⟨spec.basePath, path, answer⟩])
          refine ⟨⟨spec.basePath, path, answer⟩ :: asked, next, ?_, by simp [Finding.asked?, hasked]⟩
          have hask : (recording disk spec.basePath path).run (s, before) =
              pure (answer, after, before ++ [⟨spec.basePath, path, answer⟩]) := by
            simp only [recording, StateT.run, hanswer]
            rfl
          cases answer with
          | true => simp [inquireFinding, inquirePath, hask, hrun, defectsAnswered]
          | false => simp [inquireFinding, inquirePath, hask, hrun, defectsAnswered]

theorem isSorted_of_mem_settingsFindings {entered : List String} {s : Settings} {f : Finding}
    (h : f ∈ spec.settingsFindings entered s) : f.IsSorted := by
  cases f with
  | defect d =>
      obtain ⟨_, _, _, _, hflaw⟩ := defect_mem_settingsFindings_iff.mp h
      cases hflaw <;> rfl
  | path path d => exact absurd h (path_notMem_settingsFindings path d entered s)
  | ring chain => trivial

theorem isSorted_of_mem_referenceFindings {r : Reference} {f : Finding}
    (h : f ∈ spec.referenceFindings r) : f.IsSorted := by
  have hkind := r.isAboutPath_defect spec.basePath
  cases hpath : r.path? with
  | some path =>
      rw [referenceFindings_of_path? hpath, List.mem_singleton] at h
      rw [hpath] at hkind
      rw [h]
      exact hkind
  | none =>
      rw [referenceFindings_of_path?_eq_none hpath] at h
      rw [hpath] at hkind
      split at h
      · cases h
      · rw [List.mem_singleton.mp h]
        exact hkind

/-- The findings that are defects already are not about paths, and the others are. -/
theorem isSorted_of_mem_findings {f : Finding} (h : f ∈ spec.findings) : f.IsSorted := by
  have hreferences : ∀ references : List Reference,
      (∃ r ∈ references, f ∈ spec.referenceFindings r) → f.IsSorted :=
    fun _ ⟨_, _, hf⟩ => isSorted_of_mem_referenceFindings spec hf
  rw [findings_eq] at h
  simp only [List.mem_append, List.mem_flatMap] at h
  rcases h with ((((h | h) | h) | ⟨g, -, h⟩) | ⟨t, -, h | h⟩) | ⟨s, -, h⟩
  · exact isSorted_of_mem_settingsFindings spec h
  · exact hreferences _ h
  · exact hreferences _ h
  · exact isSorted_of_mem_settingsFindings spec h
  · exact hreferences _ h
  · exact isSorted_of_mem_settingsFindings spec h
  · exact hreferences _ h

/-- Of the defects that answers come to, those about paths are the ones that a path was denied
for. -/
theorem filter_defectsAnswered {findings : List Finding} {answers : List Bool}
    (hsorted : ∀ f ∈ findings, f.IsSorted)
    (hlength : answers.length = (findings.filterMap Finding.asked?).length) :
    (defectsAnswered findings answers).filter Defect.isAboutPath =
      (((findings.filterMap Finding.asked?).zip answers).filter fun e => !e.2).map
        fun e => e.1.2 := by
  induction findings generalizing answers with
  | nil => rfl
  | cons f rest ih =>
      obtain ⟨hfirst, hothers⟩ := List.forall_mem_cons.mp hsorted
      cases f with
      | defect d =>
          have hnot : d.isAboutPath = false := hfirst
          rw [defectsAnswered, List.filter_cons_of_neg (by simp [hnot])]
          exact ih hothers hlength
      | ring chain => exact ih hothers hlength
      | path path d =>
          have habout : d.isAboutPath = true := hfirst
          cases answers with
          | nil => simp [Finding.asked?] at hlength
          | cons answer answers =>
              have hanswers : answers.length = (rest.filterMap Finding.asked?).length := by
                simpa [Finding.asked?] using hlength
              cases answer with
              | true => simpa [defectsAnswered, Finding.asked?] using ih hothers hanswers
              | false => simpa [defectsAnswered, habout, Finding.asked?] using ih hothers hanswers

/-- What is asked about a reference, and the defect that depends on the answer. -/
def askedOf (r : Reference) : Option (String × Defect) := r.path?.map (·, r.defect spec.basePath)

theorem asked?_flatMap_referenceFindings (references : List Reference) :
    (references.flatMap spec.referenceFindings).filterMap Finding.asked? =
      references.filterMap spec.askedOf := by
  rw [List.filterMap_flatMap, List.filterMap_eq_flatMap_toList]
  congr 1
  funext r
  cases hpath : r.path? with
  | some path => simp [referenceFindings_of_path? hpath, Finding.asked?, askedOf, hpath]
  | none =>
      rw [referenceFindings_of_path?_eq_none hpath]
      split <;> simp [Finding.asked?, askedOf, hpath]

theorem asked?_settingsFindings (entered : List String) (s : Settings) :
    (spec.settingsFindings entered s).filterMap Finding.asked? = [] := by
  rw [List.filterMap_eq_nil_iff]
  intro f hf
  have hsettled := path?_of_mem_settingsFindings spec hf
  cases f with
  | path path d => cases hsettled
  | _ => rfl

/-- References that are not to files are left out. -/
theorem askedOf_eq_nil {references : List Reference} (hnames : ∀ r ∈ references, r.path? = none) :
    references.filterMap spec.askedOf = [] := by
  rw [List.filterMap_eq_nil_iff]
  intro r hr
  simp [askedOf, hnames r hr]

theorem askedOf_configFileReferences (target : Option String) (files : List (String × String)) :
    (configFileReferences target files).filterMap spec.askedOf =
      (files.map fun e => Reference.configFile target e.1 e.2).filterMap spec.askedOf := by
  induction files with
  | nil => rfl
  | cons e rest ih =>
      have hcons : configFileReferences target (e :: rest) =
          .configFile target e.1 e.2 :: .configFileName e.1 :: configFileReferences target rest :=
        rfl
      have hname : spec.askedOf (.configFileName e.1) = none := rfl
      rw [hcons, List.map_cons, List.filterMap_cons, List.filterMap_cons, List.filterMap_cons, hname,
        ih]

theorem askedOf_targetReferences (target : Target) :
    (targetReferences target).filterMap spec.askedOf =
      (target.configFiles.map (fun e => Reference.configFile (some target.name) e.1 e.2)
        ++ sourceReferences target ++ scriptReferences target).filterMap spec.askedOf := by
  have hscheme : (variantReferences target ++ testReferences target).filterMap spec.askedOf = [] :=
    askedOf_eq_nil spec fun _ => path?_of_mem_targetSchemeReferences
  rw [List.filterMap_append, List.append_eq_nil_iff] at hscheme
  simp only [targetReferences, List.filterMap_append, askedOf_configFileReferences, hscheme,
    askedOf_eq_nil spec fun _ => path?_of_mem_dependencyReferences, List.nil_append,
    List.append_nil]

/-- Path references have a path. -/
theorem path?_of_mem_pathReferences {r : Reference} (h : r ∈ spec.pathReferences) :
    r.path? = some (r.path?.getD "") := by
  simp only [pathReferences, sourceReferences, scriptReferences, List.mem_append, List.mem_map,
    List.mem_flatMap, List.mem_filterMap] at h
  rcases h with (⟨group, -, rfl⟩ | ⟨e, -, rfl⟩) |
    ⟨t, -, (⟨e, -, rfl⟩ | ⟨source, -, rfl⟩) | ⟨script, -, hscript⟩⟩
  · rfl
  · rfl
  · rfl
  · rfl
  · split at hscript
    · cases hscript
      rfl
    · cases hscript

/-- The paths of the findings are those of the path references, in their order. -/
theorem asked?_findings :
    spec.findings.filterMap Finding.asked? =
      spec.pathReferences.map fun r => (r.path?.getD "", r.defect spec.basePath) := by
  have hschemes : (spec.schemes.flatMap schemeReferences).filterMap spec.askedOf = [] := by
    apply askedOf_eq_nil
    intro r hr
    obtain ⟨scheme, -, hr⟩ := List.mem_flatMap.mp hr
    exact path?_of_mem_schemeReferences hr
  have hgroups : (spec.settingGroups.flatMap fun g =>
      spec.settingsFindings [g.1] g.2).filterMap Finding.asked? = [] := by
    simp [List.filterMap_flatMap, asked?_settingsFindings]
  have htargets : (spec.targets.flatMap fun t =>
        (targetReferences t).flatMap spec.referenceFindings
          ++ spec.settingsFindings [] t.settings).filterMap Finding.asked? =
      (spec.targets.flatMap targetReferences).filterMap spec.askedOf := by
    rw [List.filterMap_flatMap, List.filterMap_flatMap]
    congr 1
    funext t
    rw [List.filterMap_append, asked?_flatMap_referenceFindings, asked?_settingsFindings,
      List.append_nil]
  calc spec.findings.filterMap Finding.asked?
      = spec.auditedReferences.filterMap spec.askedOf := by
        rw [findings_eq, ← List.flatMap_assoc]
        simp only [auditedReferences, List.filterMap_append, asked?_settingsFindings, hgroups,
          htargets, asked?_flatMap_referenceFindings, List.nil_append, List.append_nil]
    _ = spec.pathReferences.filterMap spec.askedOf := by
        simp only [auditedReferences, pathReferences, List.filterMap_append, hschemes,
          askedOf_configFileReferences, List.filterMap_flatMap, askedOf_targetReferences,
          List.append_nil]
    _ = spec.pathReferences.map fun r => (r.path?.getD "", r.defect spec.basePath) := by
        rw [← List.filterMap_eq_map']
        apply List.filterMap_congr
        intro r hr
        rw [askedOf, path?_of_mem_pathReferences spec hr]
        rfl

/-- The paths that the audit asks about are those of the path references. -/
theorem calls_eq : spec.calls.map some = spec.pathReferences.map Reference.path? := by
  have hcalls : spec.calls = (spec.findings.filterMap Finding.asked?).map Prod.fst := by
    rw [calls, List.map_filterMap]
    congr 1
    funext f
    cases f <;> rfl
  rw [hcalls, asked?_findings, List.map_map, List.map_map]
  exact List.map_congr_left fun r hr => (path?_of_mem_pathReferences spec hr).symm

/-- **An inquiry asks about each path reference once, whatever it is told.**  The questions are those
of the path references of the spec, always from its base path and in the order of the spec, for any
disk.  And the defects about paths are those of the references that were denied, in that order. -/
theorem inquiry_asks_each_path_reference_once (spec : ProjectSpec) {σ : Type}
    (disk : σ → Path → String → Bool × σ) (start : σ) :
    ∃ found last asked,
      (spec.inquire (recording disk)).run (start, []) = pure (found, last, asked) ∧
        asked.map (fun q => (q.base, some q.path)) =
          spec.pathReferences.map (fun r => (spec.basePath, r.path?)) ∧
        found.filter Defect.isAboutPath =
          ((spec.pathReferences.zip (asked.map Question.answer)).filter fun e => !e.2).map
            fun e => e.1.defect spec.basePath := by
  obtain ⟨asked, last, hrun, hasked⟩ := run_inquireFindings disk spec spec.findings start []
  have hlength : (asked.map Question.answer).length =
      (spec.findings.filterMap Finding.asked?).length := by
    simpa using congrArg List.length hasked
  refine ⟨defectsAnswered spec.findings (asked.map Question.answer), last, asked, ?_, ?_, ?_⟩
  · rw [inquire_eq, hrun, List.nil_append]
  · rw [asked?_findings] at hasked
    calc asked.map (fun q => (q.base, some q.path))
        = (asked.map fun q => (q.base, q.path)).map fun e => (e.1, some e.2) := by simp
      _ = spec.pathReferences.map (fun r => (spec.basePath, some (r.path?.getD ""))) := by
          rw [hasked, List.map_map, List.map_map]
          rfl
      _ = spec.pathReferences.map (fun r => (spec.basePath, r.path?)) :=
          List.map_congr_left fun r hr => by rw [← path?_of_mem_pathReferences spec hr]
  · rw [filter_defectsAnswered (fun _ => isSorted_of_mem_findings spec) hlength, asked?_findings,
      List.zip_map_left, List.filter_map, List.map_map]
    rfl

end ProjectSpec

end BuildSpec
