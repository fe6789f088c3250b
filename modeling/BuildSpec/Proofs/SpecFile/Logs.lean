import BuildSpec.Proofs.SpecFile.Agreement
import BuildSpec.Proofs.SpecFile.Discovery
import BuildSpec.Proofs.SpecFile.Isolation

/-!
# What checks write to the log

The records that a run writes to the log can be told from the files that it checks, up to their
words, in which a loader says whether it has kept a file:

* `Logs` — the levels of the records for one file, each with its cause;
* `exists_mem_log_checkFile_iff` — one check writes these, whichever faithful loader makes it;
* `exists_mem_log_checkFiles_iff` — and a run writes what the checks of its files write;
* `logger_mem_of_mem_log_checkFiles` — the names under which records are written.
-/

namespace BuildSpec.SpecFile

/-- The levels of the records for a file: it is read from the disk, the spec in it is checked, and a
ring of setting groups is come upon. -/
inductive Logs (tree : FileTree) (path : Path) : Int → Prop
  | reading : tree.HasFile path → Logs tree path Log.debug
  | checking {spec : ProjectSpec} : (readSpec (.fresh false) tree true path).1 = .ok spec →
      Logs tree path Log.info
  | ring {spec : ProjectSpec} : (readSpec (.fresh false) tree true path).1 = .ok spec →
      spec.rings ≠ [] → Logs tree path Log.warning

/-- The names under which a run writes to the log. -/
def loggers : List String :=
  ["project_spec_designer.models.parsing.yaml_parser",
    "project_spec_designer.models.parsing.spec_parser", ProjectSpec.auditLogger,
    "project_spec_designer.checker.spec_file_checker"]

variable {around : Surroundings} {tree : FileTree} {l : Loader} {path : Path} {level : Int}
  {record : Log.Record}

/-- No record lies below the level for debugging. -/
theorem Logs.debug_le (h : Logs tree path level) : Log.debug ≤ level := by
  cases h <;> decide

/-! ## One load -/

theorem hasFile_iff : tree.HasFile path ↔ ∃ file, fileAt tree path = .ok file := by
  unfold FileTree.HasFile fileAt
  cases tree.find? path with
  | none => simp
  | some entry => cases entry <;> simp

/-- A load writes one record if there is a file, and none otherwise. -/
theorem Loader.load_log (l : Loader) (tree : FileTree) (path : Path) :
    (tree.HasFile path ∧ ∃ message, (l.load tree path).log = [Loader.record message]) ∨
      (¬ tree.HasFile path ∧ (l.load tree path).log = []) := by
  rw [hasFile_iff]
  unfold load
  cases fileAt tree path with
  | error fault => exact .inr ⟨by simp, rfl⟩
  | ok file =>
      refine .inl ⟨⟨file, rfl⟩, ?_⟩
      cases l.kept? path with
      | some content => exact ⟨_, rfl⟩
      | none =>
          dsimp only [read]
          cases Content.ofFile path file <;> exact ⟨_, rfl⟩

/-- What is read as a spec is a file. -/
theorem hasFile_of_readSpec {spec : ProjectSpec}
    (h : (readSpec l tree true path).1 = .ok spec) : tree.HasFile path := by
  rw [hasFile_iff]
  cases hfile : fileAt tree path with
  | ok file => exact ⟨file, rfl⟩
  | error fault =>
      have hresult : (l.load tree path).result = .error fault := by
        rw [Loader.load_result, hfile]
      simp only [readSpec, hresult] at h
      cases h

/-- Faithful loaders come to the same in reading a file. -/
theorem Loader.Faithful.readSpec_eq (h : l.Faithful tree) (path : Path) :
    (readSpec l tree true path).1 = (readSpec (.fresh false) tree true path).1 := by
  simp only [readSpec, h.load_result, (Loader.faithful_fresh tree false).load_result]

/-! ## One check -/

/-- A check writes what the load writes, and more if a spec is read. -/
theorem log_checkFile (around : Surroundings) (tree : FileTree) (l : Loader) (path : Path) :
    (checkFile around tree l path).log = (l.load tree path).log ++
      match (readSpec l tree true path).1 with
      | .ok spec => (inspectSpec around path (placesAt l tree path) spec).log
      | .error _ => [] := by
  rw [checkFile_of_told rfl]
  cases (readSpec l tree true path).1 <;> rfl

/-- An audit writes a record for debugging, and warnings if there are rings. -/
theorem exists_mem_auditLog_iff {spec : ProjectSpec} {count : Nat} :
    (∃ record ∈ spec.auditLog count, record.level = level) ↔
      level = Log.debug ∨ level = Log.warning ∧ spec.rings ≠ [] := by
  simp only [ProjectSpec.auditLog, List.mem_append, List.mem_map, List.mem_singleton]
  constructor
  · rintro ⟨record, ⟨chain, hchain, rfl⟩ | rfl, rfl⟩
    · exact .inr ⟨rfl, List.ne_nil_of_mem hchain⟩
    · exact .inl rfl
  · rintro (rfl | ⟨rfl, hrings⟩)
    · exact ⟨_, .inr rfl, rfl⟩
    · obtain ⟨chain, hchain⟩ := List.exists_mem_of_ne_nil _ hrings
      exact ⟨_, .inl ⟨chain, hchain, rfl⟩, rfl⟩

/-- The check of a spec writes what reading and auditing it write, and a record at its end. -/
theorem exists_mem_log_inspectSpec_iff {places : SourceMap} {spec : ProjectSpec} :
    (∃ record ∈ (inspectSpec around path places spec).log, record.level = level) ↔
      level = Log.debug ∨ level = Log.info ∨ level = Log.warning ∧ spec.rings ≠ [] := by
  simp only [inspectSpec, ProjectSpec.readLog, List.mem_append, List.mem_singleton, or_and_right,
    exists_or, exists_eq_left, exists_mem_auditLog_iff]
  tauto

/-- **The check of a file writes records of the levels that the file gives rise to.** -/
theorem exists_mem_log_checkFile_iff (h : l.Faithful tree) :
    (∃ record ∈ (checkFile around tree l path).log, record.level = level) ↔
      Logs tree path level := by
  have hload : (∃ record ∈ (l.load tree path).log, record.level = level) ↔
      tree.HasFile path ∧ level = Log.debug := by
    rcases l.load_log tree path with ⟨hfile, message, hlog⟩ | ⟨hnone, hlog⟩
    · simp [hlog, hfile, Loader.record, eq_comm]
    · simp [hlog, hnone]
  rw [log_checkFile]
  simp only [List.mem_append, or_and_right, exists_or, hload]
  cases hread : (readSpec l tree true path).1 with
  | error fault =>
      rw [h.readSpec_eq] at hread
      simp only [List.not_mem_nil, false_and, exists_false, or_false]
      constructor
      · rintro ⟨hfile, rfl⟩
        exact .reading hfile
      · rintro (hfile | hspec | ⟨hspec, -⟩)
        · exact ⟨hfile, rfl⟩
        all_goals
          rw [hread] at hspec
          cases hspec
  | ok spec =>
      have hfile := hasFile_of_readSpec hread
      rw [h.readSpec_eq] at hread
      simp only [exists_mem_log_inspectSpec_iff]
      constructor
      · rintro (⟨-, rfl⟩ | rfl | rfl | ⟨rfl, hrings⟩)
        · exact .reading hfile
        · exact .reading hfile
        · exact .checking hread
        · exact .ring hread hrings
      · rintro (- | - | ⟨hspec, hrings⟩)
        · exact .inl ⟨hfile, rfl⟩
        · exact .inr (.inr (.inl rfl))
        · rw [hread] at hspec
          cases hspec
          exact .inr (.inr (.inr ⟨rfl, hrings⟩))

/-- **A run writes records of the levels that its files give rise to.** -/
theorem exists_mem_log_checkFiles_iff (h : l.Faithful tree) {paths : List Path} :
    (∃ record ∈ (checkFiles around tree l paths).flatMap Check.log, record.level = level) ↔
      ∃ path ∈ paths, Logs tree path level := by
  -- the loader that is handed on to the rest of the files is faithful again
  induction paths generalizing l with
  | nil => simp [checkFiles]
  | cons path rest ih =>
      have hnext : (checkFile around tree l path).loader.Faithful tree := h.load path
      simp only [checkFiles, List.flatMap_cons, List.mem_append, List.mem_cons, or_and_right,
        exists_or, exists_eq_left, ih hnext, exists_mem_log_checkFile_iff h]

/-- A check writes to the log under the names of the tool. -/
theorem logger_mem_of_mem_log_checkFile (h : record ∈ (checkFile around tree l path).log) :
    record.logger ∈ loggers := by
  rw [log_checkFile, List.mem_append] at h
  rcases h with hload | hspec
  · rcases l.load_log tree path with ⟨-, message, hlog⟩ | ⟨-, hlog⟩
    · rw [hlog, List.mem_singleton] at hload
      simp [hload, Loader.record, loggers]
    · rw [hlog] at hload
      cases hload
  · split at hspec
    · simp only [inspectSpec, ProjectSpec.readLog, ProjectSpec.auditLog, List.mem_append,
        List.mem_map, List.mem_singleton] at hspec
      rcases hspec with (rfl | ⟨chain, -, rfl⟩ | rfl) | rfl <;> simp [loggers]
    · cases hspec

/-- A run writes to the log under the names of the tool. -/
theorem logger_mem_of_mem_log_checkFiles {paths : List Path}
    (h : record ∈ (checkFiles around tree l paths).flatMap Check.log) :
    record.logger ∈ loggers := by
  induction paths generalizing l with
  | nil => cases h
  | cons path rest ih =>
      rw [checkFiles, List.flatMap_cons, List.mem_append] at h
      exact h.elim logger_mem_of_mem_log_checkFile ih

end BuildSpec.SpecFile
