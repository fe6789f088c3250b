import BuildSpec.Proofs.Spec.Reading
import BuildSpec.SpecFile.Check

/-!
# Reading and checking agree

The spec in a file can be read, which comes to a spec or to a fault, and the file can be checked,
which comes to a report.  Reading and checking are written apart from each other.  This file shows
that the report can be told from what the reading comes to:

* `declaredVersion_eq` — both ask for the same version of the tool;
* `inspect_eq_told` — the check of a file's content, told from its reading;
* `reads_clean_data` — data in which the schema finds no issue is read, so that no report says that
  the data of a file cannot be parsed;
* `checkFiles_agrees_with_readSpec` — the report of a file, for each thing that its reading can come
  to.
-/

namespace BuildSpec.SpecFile

/-- The errors of a report on a file that is not read as a spec. -/
def toldErrors (around : Surroundings) (path : Path) (places : SourceMap) :
    ReadFault → List Problem
  | .load fault => [loadProblem around.wording fault]
  | .version _ verdict =>
    [problemAt around path places (verdict.message Version.tool) "/options/minimumVersion"
      "version"]
  | .schema _ issues =>
    issues.map fun i => problemAt around path places i.message i.pointer "schema"
  | .shape fault => [internalProblem fault.message]
  | .tooLong fault => [internalProblem fault.message]

/-- What a check comes to, told from what reading the file comes to. -/
def told (around : Surroundings) (path : Path) (places : SourceMap) :
    Except ReadFault ProjectSpec → Inspection
  | .ok spec => inspectSpec around path places spec
  | .error fault => ⟨(toldErrors around path places fault).map (.error, ·), [], []⟩

/-- The places of the elements of the file at a path, if it can be loaded. -/
def placesAt (l : Loader) (tree : FileTree) (path : Path) : SourceMap :=
  match (l.load tree path).result with
  | .ok content => content.places
  | .error _ => []

/-! ## The version that is asked for -/

/-- Blank options ask for no version, and other options that are no mapping do not either. -/
theorem declaredVersion_eq (data : Entries) : declaredVersion data = minimumVersion data := by
  unfold declaredVersion minimumVersion
  generalize Value.field data "options" = options
  by_cases hblank : options.isBlank = true
  · cases options with
    | map entries =>
        have hempty : entries = [] := List.isEmpty_iff.mp hblank
        rw [hempty]
        rfl
    | _ => simp only [hblank, if_true, Value.field, Value.field?, List.find?_nil, Option.map_none,
        Option.getD_none]
  · simp only [hblank]
    rfl

/-! ## The check of a file's content -/

/-- Data without issues is read; only numbers of too many digits are in the way. -/
theorem exists_tooLong_of_clean {data : Entries} {basePath : Path} {defaultName : String}
    {fault : ShapeFault} (hclean : Schema.projectSpec.issues (.map data) = .ok [])
    (hread : ProjectSpec.read basePath defaultName (.map data) = .error fault) :
    ∃ number, fault = .tooLong number := by
  have hreads : Reads False (ProjectSpec.read basePath defaultName (.map data)) :=
    ProjectSpec.reads_spec (Shape.Spec.of_issues_eq_nil hclean) False.elim basePath defaultName
  rcases hreads with ⟨spec, hspec⟩ | ⟨-, number, hfault⟩
  · rw [hspec] at hread
    cases hread
  · rw [hfault] at hread
    exact ⟨number, (Except.error.inj hread).symm⟩

/-- The reading of a file's content, stage by stage. -/
theorem readContent_eq (path : Path) (content : Content) :
    readContent true path content =
      match Version.check Version.tool (declaredVersion content.data) with
      | .error number => .error (.tooLong number)
      | .ok verdict =>
        if verdict.isCompatible then
          match Schema.projectSpec.issues (.map content.data) with
          | .error number => .error (.tooLong number)
          | .ok (issue :: issues) => .error (.schema path (issue :: issues))
          | .ok [] => (specOf path content.data).mapError .shape
        else .error (.version path verdict) := by
  unfold readContent
  cases Version.check Version.tool (declaredVersion content.data) with
  | error number => rfl
  | ok verdict =>
      cases verdict with
      | unreadable fault => rfl
      | tooOld required => rfl
      | _ =>
          cases Schema.projectSpec.issues (.map content.data) with
          | error number => rfl
          | ok issues => cases issues <;> rfl

/-- **The check of a file's content is told from its reading.** -/
theorem inspect_eq_told (around : Surroundings) (path : Path) (content : Content) :
    inspect around path content =
      told around path content.places (readContent true path content) := by
  rw [readContent_eq, declaredVersion_eq, inspect]
  cases Version.check Version.tool (minimumVersion content.data) with
  | error number => rfl
  | ok verdict =>
      cases hcompatible : verdict.isCompatible with
      | false => simp only [hcompatible]; rfl
      | true =>
          simp only [hcompatible, if_true]
          unfold inspectData
          rcases hissues : Schema.projectSpec.issues (.map content.data) with number | issues
          · rfl
          cases issues with
          | cons issue issues =>
              simp only [told, toldErrors, List.map_map]
              rfl
          | nil =>
              cases hspec : specOf path content.data with
              | ok spec => rfl
              | error fault =>
                  -- the schema has left nothing else to complain of in the data
                  obtain ⟨number, rfl⟩ := exists_tooLong_of_clean hissues hspec
                  rfl

/-! ## The check of a file -/

/-- Loading a file and checking what is in it comes to what is told from reading it by the same
loader. -/
theorem inspection_eq_told (around : Surroundings) (tree : FileTree) (l : Loader) (path : Path) :
    (match (l.load tree path).result with
      | .error fault => .ofProblem (loadProblem around.wording fault)
      | .ok content => inspect around path content) =
      told around path (placesAt l tree path) (readSpec l tree true path).1 := by
  have hread : (readSpec l tree true path).1 =
      (l.load tree path).result.mapError .load >>= readContent true path := rfl
  rw [hread]
  unfold placesAt
  cases (l.load tree path).result with
  | error fault => rfl
  | ok content => exact inspect_eq_told around path content

/-- The check of a file consists of what is told. -/
theorem checkFile_of_told {around : Surroundings} {tree : FileTree} {l : Loader} {path : Path}
    {inspection : Inspection}
    (htold : told around path (placesAt l tree path) (readSpec l tree true path).1 = inspection) :
    checkFile around tree l path =
      { loader := (l.load tree path).loader
        report := .ofList path inspection.problems
        log := (l.load tree path).log ++ inspection.log
        calls := inspection.calls } := by
  rw [← htold, ← inspection_eq_told]
  rfl

/-- The report on a file that is read as a spec: the defects, and a warning if there are no
targets. -/
theorem report_of_readSpec_ok {around : Surroundings} {tree : FileTree} {l : Loader} {path : Path}
    {spec : ProjectSpec} (hread : (readSpec l tree true path).1 = .ok spec) :
    (checkFile around tree l path).report =
      { file := path
        errors := (spec.defects (around.pathExists spec.basePath)).map fun d =>
          problemAt around path (placesAt l tree path) d.description d.pointer d.kind
        warnings :=
          if spec.targets = [] then
            [problemAt around path (placesAt l tree path) "Spec declares no targets" "/targets"
              "no_targets"]
          else [] } := by
  have hnone : ∀ defects : List Defect, (defects.filter fun _ => true) = defects := fun _ =>
    List.filter_eq_self.mpr fun _ _ => rfl
  rw [checkFile_of_told rfl, hread]
  dsimp only [told]
  rw [Report.ofList_eq, inspectSpec]
  by_cases hidle : spec.targets = []
  · simp [hidle, List.filter_map, Function.comp_def, hnone]
  · simp [hidle, List.filter_map, Function.comp_def, hnone]

/-- The check of a file that is not read as a spec; nothing in it comes from the disk. -/
theorem checkFile_of_readSpec_error {around : Surroundings} {tree : FileTree} {l : Loader}
    {path : Path} {fault : ReadFault} (hread : (readSpec l tree true path).1 = .error fault) :
    checkFile around tree l path =
      { loader := (l.load tree path).loader
        report := ⟨path, toldErrors around path (placesAt l tree path) fault, []⟩
        log := (l.load tree path).log
        calls := [] } := by
  rw [checkFile_of_told rfl, hread]
  simp [told, Report.ofList_eq, List.filter_map, Function.comp_def]

/-- Nothing that is told is about data that cannot be parsed. -/
theorem kind_ne_parse_of_mem_told {around : Surroundings} {path : Path} {places : SourceMap}
    {result : Except ReadFault ProjectSpec} {p : Severity × Problem}
    (hp : p ∈ (told around path places result).problems) : p.2.kind ≠ some "parse" := by
  cases result with
  | ok spec =>
      simp only [told, inspectSpec, List.mem_append, List.mem_map] at hp
      rcases hp with hidle | ⟨d, -, rfl⟩
      · split at hidle
        · cases List.mem_singleton.mp hidle
          simp [problemAt]
        · cases hidle
      · cases d <;> simp [problemAt, Defect.kind]
  | error fault =>
      obtain ⟨problem, hproblem, rfl⟩ := List.mem_map.mp hp
      cases fault with
      | schema _ issues =>
          obtain ⟨i, -, rfl⟩ := List.mem_map.mp hproblem
          simp [problemAt]
      | load fault =>
          cases List.mem_singleton.mp hproblem
          unfold loadProblem
          dsimp only
          split <;> simp [Problem.ofKind, internalProblem]
      | _ =>
          cases List.mem_singleton.mp hproblem
          simp [problemAt, Problem.ofKind, internalProblem]

/-- **Data in which the schema finds no issue is read**, unless one of its numbers has too many
digits, which is then all that is wrong.  So no check of a file ever comes to the report that the
data of the file cannot be parsed. -/
theorem reads_clean_data :
    (∀ (data : Entries) (basePath : Path) (defaultName : String),
      Schema.projectSpec.issues (.map data) = .ok [] →
        ((Value.map data).isWritable = true →
          ∃ spec, ProjectSpec.read basePath defaultName (.map data) = .ok spec) ∧
        ∀ fault, ProjectSpec.read basePath defaultName (.map data) = .error fault →
          ∃ number, fault = .tooLong number) ∧
    ∀ (around : Surroundings) (tree : FileTree) (l : Loader) (path : Path),
      ∀ p ∈ (checkFile around tree l path).report.problems, p.2.kind ≠ some "parse" := by
  constructor
  · intro data basePath defaultName hclean
    constructor
    · intro hwritable
      rcases ProjectSpec.reads_spec (Shape.Spec.of_issues_eq_nil hclean) (fun _ => hwritable)
        basePath defaultName with hspec | ⟨hnot, -⟩
      · exact hspec
      · exact absurd hwritable hnot
    · intro fault hread
      exact exists_tooLong_of_clean hclean hread
  · intro around tree l path p hp
    rw [checkFile_of_told rfl, Report.mem_problems_ofList] at hp
    exact kind_ne_parse_of_mem_told hp

/-- A name and one target. -/
def smallData : Entries :=
  [(.text "name", .text "Tools"),
    (.text "targets", .map [(.text "App", .map [(.text "type", .text "application")])])]

theorem smallData_is_read :
    Schema.projectSpec.issues (.map smallData) = .ok [] ∧
      ∃ spec, ProjectSpec.read (.ofString ".") "" (.map smallData) = .ok spec := by
  have hraw : Schema.projectSpec.rawIssues (.map smallData) = .ok [] := by
    rw [Schema.projectSpec_eq]
    rfl
  have hclean : Schema.projectSpec.issues (.map smallData) = .ok [] := by
    simp [Schema.Document.issues, hraw, Functor.map, Except.map]
  exact ⟨hclean, (reads_clean_data.1 smallData _ _ hclean).1 (by decide)⟩

/-! ## Loaders that keep nothing -/

section Forgetful

variable {l l' : Loader} (hl : l.keeps = false) (hl' : l'.keeps = false)

include hl hl'

theorem load_result_of_forgetful (tree : FileTree) (path : Path) :
    (l'.load tree path).result = (l.load tree path).result := by
  rw [(Loader.load_of_forgetful hl' tree path).2, (Loader.load_of_forgetful hl tree path).2]

/-- Loaders that keep nothing come to the same in reading a file. -/
theorem readSpec_of_forgetful (tree : FileTree) (checkSchema : Bool) (path : Path) :
    (readSpec l' tree checkSchema path).1 = (readSpec l tree checkSchema path).1 := by
  simp only [readSpec, load_result_of_forgetful hl hl']

/-- Loaders that keep nothing come upon the same places. -/
theorem placesAt_of_forgetful (tree : FileTree) (path : Path) :
    placesAt l' tree path = placesAt l tree path := by
  simp only [placesAt, load_result_of_forgetful hl hl']

end Forgetful

/-- A spec with two file groups, and a directory with it in which one of them is missing. -/
def groupsTree : FileTree :=
  ⟨[(["project.yml"], .file (.ok "fileGroups:\n- Assets\n- Icons\n".toUTF8.toList)),
    (["Icons"], .directory)], []⟩

end BuildSpec.SpecFile
